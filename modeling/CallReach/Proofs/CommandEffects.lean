import CallReach.Command.Run
import CallReach.Proofs.PathResolution

/-!
# What a run leaves behind

A run goes through stages that may each stop it: inputs, the settings file, the settings, the
program, the path to write to, the writing itself, and printing. Whatever has been written or
printed before it stops stays so, and it is the order of the stages that makes a run all or nothing:
printing comes last and once, only writing a file comes before it, and all else that can fail comes
before the two. So the one thing that can stop a run after its first effect is a standard output
that does not take the whole text.

A file is written only where the path that was given leads down from the working directory. The
check of the path looks at its components, and the tree is walked piece by piece; both agree on
which names are walked along.

## Key results

- `FileTree.target_of_relative`: where a path without `..` leads in a tree
- `Path.components_normalize_join`: where such a path leads by its text
- `FileTree.write_below`: what writing to a checked path changes
- `Run.PrintsLast.bind`: what comes before the effects of a run may stop it
- `Run.Prints.run_of_limit`: what comes through where standard output has a limit
- `outcome_all_or_nothing`: a run that fails does nothing, and one that succeeds writes below the
  working directory
-/

namespace CallReach

/-! ## Paths that lead down, by their text -/

namespace Path

private theorem up_mem_components_iff {p : String} : .up ∈ components p ↔ .up ∈ steps p := by
  cases h : isAbsolute p with
  | true => simp [components_of_absolute h]
  | false =>
    rcases components_of_relative h with hc | hc
    · rw [hc]
    · simp [hc]

/-- `resolveStep` pushes names, so a walk along names leaves them behind what was there. -/
private theorem foldl_resolveStep_names (names : List String) (ts : List Component) :
    (names.map Component.name).foldl resolveStep ts = (names.map Component.name).reverse ++ ts := by
  induction names generalizing ts with
  | nil => rfl
  | cons s names ih =>
    rw [List.map_cons, List.foldl_cons, ih, List.reverse_cons, List.append_assoc]
    rfl

/-- `join` and `normalize` lead from a directory down along the names of a path that has no other
steps. -/
theorem components_normalize_join {dir p : String} {names : List String}
    (hdir : isAbsolute dir = true) (hp : isAbsolute p = false)
    (hsteps : steps p = names.map .name) :
    components (normalize (join dir p)) = components (normalize dir) ++ names.map .name := by
  have hjoin : isAbsolute (join dir p) = true := isAbsolute_join_of_absolute hdir p
  have htrail : trail (join dir p) = (names.map Component.name).reverse ++ trail dir := by
    rw [trail_join hp, hsteps, foldl_resolveStep_names]
  have hresolve : resolve (join dir p) = resolve dir ++ names.map .name := by
    show (trail (join dir p)).reverse = (trail dir).reverse ++ _
    rw [htrail, List.reverse_append, List.reverse_reverse]
  rw [components_normalize hjoin, components_normalize hdir, hresolve]

end Path

/-! ## Paths that lead down, in a tree -/

namespace FileTree

variable {t t' : FileTree} {p q : Place} {path text : String}

/-- The names among the pieces of a path. -/
def namesIn (pieces : List String) : List String :=
  pieces.filter fun piece => piece ≠ "" && piece ≠ "."

private theorem namesIn_append (ps qs : List String) :
    namesIn (ps ++ qs) = namesIn ps ++ namesIn qs :=
  List.filter_append ..

private theorem namesIn_cons (piece : String) (ps : List String) :
    namesIn (piece :: ps) = namesIn [piece] ++ namesIn ps :=
  namesIn_append [piece] ps

private theorem namesIn_of_stay {piece : String} (h : piece = "" ∨ piece = ".") :
    namesIn [piece] = [] := by
  rcases h with rfl | rfl <;> rfl

private theorem namesIn_of_name {piece : String} (h : ¬(piece = "" ∨ piece = ".")) :
    namesIn [piece] = [piece] := by
  rw [not_or] at h
  simp [namesIn, h]

/-- `enter` goes down one name, or stays where it is. -/
private theorem enter_eq_ok {piece : String} (hup : piece ≠ "..") (h : t.enter p piece = .ok q) :
    q = p ++ namesIn [piece] := by
  unfold enter at h
  by_cases hdirectory : t.entry? p = some .directory
  · by_cases hstay : piece = "" ∨ piece = "."
    · have hsame : p = q := by simpa [hdirectory, hstay] using h
      rw [namesIn_of_stay hstay, List.append_nil, hsame]
    · rw [namesIn_of_name hstay]
      simp only [hdirectory, hup, hstay, ne_eq, not_true_eq_false, Bool.or_eq_true,
        decide_eq_true_eq, if_false] at h
      -- What is left is that the name may be too long, or that nothing has this name.
      split at h
      · cases h
      · split at h
        · exact (Except.ok.inj h).symm
        · cases h
  · rw [if_pos hdirectory] at h
    cases h

/-- Pieces without `..` lead down along `namesIn`. -/
private theorem foldlM_enter_eq_ok {pieces : List String} (hup : ".." ∉ pieces)
    (h : pieces.foldlM t.enter p = .ok q) :
    q = p ++ namesIn pieces := by
  induction pieces generalizing p with
  | nil =>
    cases h
    simp [namesIn]
  | cons piece pieces ih =>
    rw [List.mem_cons, not_or] at hup
    rw [List.foldlM_cons] at h
    cases hentered : t.enter p piece with
    | error e =>
      rw [hentered] at h
      cases h
    | ok next =>
      rw [hentered] at h
      -- One piece leads down one name at most, the others go on from there.
      have hnext := enter_eq_ok (Ne.symm hup.1) hentered
      have hq := ih hup.2 h
      rw [hq, hnext, List.append_assoc, ← namesIn_cons]

private theorem ofPiece?_of_ne_up {piece : List Char} (hup : String.ofList piece ≠ "..") :
    Path.Component.ofPiece? piece = ((namesIn [String.ofList piece]).map .name).head? := by
  unfold Path.Component.ofPiece?
  split
  · rfl
  · rfl
  · exact absurd rfl hup
  · rename_i hempty hdot _
    have hname : ¬(String.ofList piece = "" ∨ String.ofList piece = ".") := by
      rw [← String.toList_inj, ← String.toList_inj, String.toList_ofList]
      exact not_or.mpr ⟨hempty, hdot⟩
    rw [namesIn_of_name hname]
    rfl

/-- `Path.steps` of a path without `..` are its `namesIn`. -/
private theorem steps_eq_map_namesIn (hup : ".." ∉ pieces path) :
    Path.steps path = (namesIn (pieces path)).map .name := by
  unfold Path.steps
  unfold pieces at hup ⊢
  -- Both sides are cut at slashes first, and go on piece by piece.
  generalize Text.cutAt '/' path.toList = cs at hup ⊢
  induction cs with
  | nil => rfl
  | cons piece rest ih =>
    rw [List.map_cons, List.mem_cons, not_or] at hup
    have hpiece := ofPiece?_of_ne_up (Ne.symm hup.1)
    rw [List.filterMap_cons, hpiece, ih hup.2, List.map_cons, namesIn_cons _ (rest.map _),
      List.map_append]
    by_cases hstay : String.ofList piece = "" ∨ String.ofList piece = "."
    · rw [namesIn_of_stay hstay]
      rfl
    · rw [namesIn_of_name hstay]
      rfl

private theorem up_mem_pieces_iff : ".." ∈ pieces path ↔ .up ∈ Path.steps path := by
  constructor
  · intro h
    obtain ⟨piece, hmem, hpiece⟩ := List.mem_map.mp h
    refine List.mem_filterMap.mpr ⟨piece, hmem, ?_⟩
    rw [← String.toList_inj, String.toList_ofList] at hpiece
    rw [hpiece]
    rfl
  · intro h
    by_contra hnot
    rw [steps_eq_map_namesIn hnot] at h
    simp at h

/-- `target` is below the directory that all pieces but the last lead to. -/
private theorem target_eq_ok (h : t.target path = .ok p) :
    ∃ dir, (trimmedPieces path).1.dropLast.foldlM t.enter (t.origin path) = .ok dir ∧
      (trimmedPieces path).2 = false ∧ (trimmedPieces path).1.getLast?.getD "" ∉ [".", ".."] ∧
      p = dir ++ [(trimmedPieces path).1.getLast?.getD ""] := by
  simp only [target, bind, Except.bind, throw, throwThe, MonadExceptOf.throw, pure, Except.pure]
    at h
  split at h
  · cases h
  · split at h
    · cases h
    · rename_i dir hdir
      -- From here on the path is refused for one reason after the other.
      split at h
      · cases h
      · split at h
        · cases h
        · rename_i hlast
          split at h
          · cases h
          · split at h
            · cases h
            · cases h
              refine ⟨dir, hdir, ?_, ?_, rfl⟩
              · simp_all
              · simp_all

/-- `target` gives a place only where the last piece of the path is a name. -/
private theorem pieces_of_target (h : t.target path = .ok p) :
    ∃ front last dir, pieces path = front ++ [last] ∧ namesIn [last] = [last] ∧
      front.foldlM t.enter (t.origin path) = .ok dir ∧ p = dir ++ [last] := by
  obtain ⟨dir, hdir, hslashed, hlast, hp⟩ := target_eq_ok h
  have hne : pieces path ≠ [] := by simpa [pieces] using Text.cutAt_ne_nil '/' path.toList
  obtain ⟨front, last, hpieces⟩ := (List.eq_nil_or_concat (pieces path)).resolve_left hne
  rw [List.concat_eq_append] at hpieces
  -- Were the last piece empty, then a slash would follow the name.
  have hempty : last ≠ "" := by
    intro hempty
    simp [trimmedPieces, hpieces, hempty] at hslashed
  have htrimmed : (trimmedPieces path).1 = front ++ [last] := by
    simp [trimmedPieces, hpieces, hempty]
  simp only [htrimmed, List.dropLast_concat, List.getLast?_concat, Option.getD_some]
    at hdir hlast hp
  refine ⟨front, last, dir, hpieces, namesIn_of_name ?_, hdir, hp⟩
  simp_all

/-- `target` of a relative path without `..` is below the working directory along the names of the
path, of which there is at least one. -/
theorem target_of_relative (hrelative : Path.isAbsolute path = false) (hup : ".." ∉ pieces path)
    (h : t.target path = .ok p) :
    namesIn (pieces path) ≠ [] ∧ p = t.cwd ++ namesIn (pieces path) := by
  obtain ⟨front, last, dir, hpieces, hlast, hdir, hp⟩ := pieces_of_target h
  have horigin : t.origin path = t.cwd := if_neg (by simpa [Path.isAbsolute] using hrelative)
  have hfront : ".." ∉ front := fun hmem => hup (hpieces ▸ List.mem_append_left _ hmem)
  -- The last piece may be new to the tree, so it is named and not walked along.
  have hnames : namesIn (pieces path) = namesIn front ++ [last] := by
    rw [hpieces, namesIn_append, hlast]
  rw [horigin] at hdir
  rw [hnames, hp, foldlM_enter_eq_ok hfront hdir, List.append_assoc]
  exact ⟨List.concat_ne_nil _ _, rfl⟩

/-- One tree is the other with a file in one place. -/
structure WrittenAt (t t' : FileTree) (p : Place) (text : String) : Prop where
  /-- The working directory is the same. -/
  cwd : t'.cwd = t.cwd
  /-- The text stands in the place. -/
  here : t'.entry? p = some (.file (some text))
  /-- Everywhere else stands what stood there. -/
  elsewhere : ∀ q, q ≠ p → t'.entry? q = t.entry? q

/-- `write` puts a file in one place and leaves the others as they are. -/
private theorem writtenAt_of_write (h : t.write path text = .ok t') :
    ∃ p, t.target path = .ok p ∧ WrittenAt t t' p text := by
  cases htarget : t.target path with
  | error e => simp [write, htarget, bind, Except.bind] at h
  | ok p =>
    obtain ⟨front, last, dir, -, -, -, hp⟩ := pieces_of_target htarget
    -- At the root stands a directory whatever the map holds there, so the place must be another
    -- one.
    have hne : p ≠ [] := hp ▸ List.concat_ne_nil _ _
    simp only [write, htarget, bind, Except.bind, pure, Except.pure] at h
    cases h
    refine ⟨p, rfl, rfl, ?_, ?_⟩
    · unfold entry?
      simp [hne]
    · intro q hq
      unfold entry?
      simp [Std.TreeMap.getElem?_insert, Ne.symm hq]

end FileTree

/-- `checkOutputPath` accepts relative paths without `..` only. -/
private theorem checkOutputPath_eq_ok {path : String} (h : checkOutputPath path = .ok ()) :
    Path.isAbsolute path = false ∧ .up ∉ Path.components path := by
  unfold checkOutputPath at h
  split at h
  · cases h
  · split at h
    · cases h
    · split at h
      · cases h
      · simp_all

private theorem exit_of_checkOutputPath {path : String} {e : Trouble}
    (h : checkOutputPath path = .error e) :
    e.exit = 1 := by
  unfold checkOutputPath at h
  split at h
  · cases h
    rfl
  · split at h
    · cases h
      rfl
    · split at h
      · cases h
        rfl
      · cases h

/-- `write` to a path that `checkOutputPath` accepts changes one place, and by text as by tree that
place is below the working directory. -/
theorem FileTree.write_below {t t' : FileTree} {path text : String}
    (hcheck : checkOutputPath path = .ok ()) (h : t.write path text = .ok t') :
    ∃ names, names ≠ [] ∧ t.WrittenAt t' (t.cwd ++ names) text ∧
      Path.components (Path.normalize (Path.join t.cwd.text path)) =
        Path.components (Path.normalize t.cwd.text) ++ names.map .name := by
  obtain ⟨hrelative, hup⟩ := checkOutputPath_eq_ok hcheck
  have hpieces : ".." ∉ pieces path := by
    rwa [up_mem_pieces_iff, ← Path.up_mem_components_iff]
  obtain ⟨p, htarget, hwritten⟩ := writtenAt_of_write h
  obtain ⟨hne, hp⟩ := target_of_relative hrelative hpieces htarget
  refine ⟨namesIn (pieces path), hne, hp ▸ hwritten, ?_⟩
  -- The text is walked along the same names as the tree.
  exact Path.components_normalize_join (Place.isAbsolute_text t.cwd) hrelative
    (steps_eq_map_namesIn hpieces)

/-! ## Effects of a run -/

namespace Run

variable {α β : Type}

private theorem run_bind (m : Run α) (k : α → Run β) (s : Session) :
    (m >>= k).run.run s =
      match m.run.run s with
      | (.ok a, s') => (k a).run.run s'
      | (.error e, s') => (.error e, s') := by
  rw [ExceptT.run_bind, StateT.run_bind]
  rcases m.run.run s with ⟨_ | _, _⟩ <;> rfl

/-- Neither writes nor prints, and comes to the same whatever standard output is. What stops it is
no panic. -/
def Quiet (m : Run α) : Prop :=
  ∀ (t : FileTree) (logs : List Log.Entry), ∃ result logs', (∀ e, result = .error e → e.exit = 1) ∧
    ∀ o : Stdout, m.run.run ⟨t, o, logs⟩ = (result, ⟨t, o, logs'⟩)

private theorem quiet_pure (a : α) : Quiet (pure a) :=
  fun _ logs => ⟨.ok a, logs, nofun, fun _ => rfl⟩

private theorem quiet_throw {e : Trouble} (he : e.exit = 1) : Quiet (throw e : Run α) := by
  refine fun _ logs => ⟨.error e, logs, ?_, fun _ => rfl⟩
  rintro _ ⟨⟩
  exact he

private theorem quiet_tree : Quiet tree := fun t logs => ⟨.ok t, logs, nofun, fun _ => rfl⟩

private theorem quiet_note (entries : List Log.Entry) : Quiet (note entries) :=
  fun _ logs => ⟨.ok (), logs ++ entries, nofun, fun _ => rfl⟩

private theorem quiet_take (result : Except Failure α) {wrap : Trouble → Trouble}
    (hwrap : ∀ f, (wrap (.failure f)).exit = 1) : Quiet (take result wrap) := by
  cases result with
  | ok a => exact quiet_pure a
  | error f => exact quiet_throw (hwrap f)

/-- The two ways to print. -/
inductive Prints : (String → Run Unit) → Prop where
  | print : Prints print
  | plain : Prints printPlain

/-- Stops without effects, or takes the tree to one that is related to it and then prints one text.
Up to there it comes to the same whatever standard output is. -/
def PrintsLast (R : FileTree → FileTree → Prop) (m : Run Unit) : Prop :=
  ∀ (t : FileTree) (logs : List Log.Entry),
    (∃ e logs', e.exit = 1 ∧ ∀ o : Stdout, m.run.run ⟨t, o, logs⟩ = (.error e, ⟨t, o, logs'⟩)) ∨
    ∃ t' logs' way text, R t t' ∧ Prints way ∧
      ∀ o : Stdout, m.run.run ⟨t, o, logs⟩ = (way text).run.run ⟨t', o, logs'⟩

/-- `PrintsLast` is kept by what comes before it, if that is `Quiet`. -/
theorem PrintsLast.bind {R : FileTree → FileTree → Prop} {m : Run α} {k : α → Run Unit}
    (hm : Quiet m) (hk : ∀ a, PrintsLast R (k a)) : PrintsLast R (m >>= k) := by
  intro t logs
  obtain ⟨result, logs', hexit, hrun⟩ := hm t logs
  cases result with
  | error e => exact .inl ⟨e, logs', hexit e rfl, fun o => by rw [run_bind, hrun]⟩
  | ok a =>
    -- The tree has not changed, so what follows starts from the same one.
    have hrest : ∀ o : Stdout, (m >>= k).run.run ⟨t, o, logs⟩ = (k a).run.run ⟨t, o, logs'⟩ := by
      intro o
      rw [run_bind, hrun]
    simp only [hrest]
    exact hk a t logs'

/-- `PrintsLast` with a weaker relation between the trees. -/
theorem PrintsLast.mono {R R' : FileTree → FileTree → Prop} {m : Run Unit} (h : PrintsLast R m)
    (hR : ∀ t t', R t t' → R' t t') : PrintsLast R' m := by
  intro t logs
  rcases h t logs with hstops | ⟨t', logs', way, text, ht, hway, hrun⟩
  · exact .inl hstops
  · exact .inr ⟨t', logs', way, text, hR t t' ht, hway, hrun⟩

private theorem printsLast_throw {R : FileTree → FileTree → Prop} {e : Trouble} (he : e.exit = 1) :
    PrintsLast R (throw e) :=
  fun _ logs => .inl ⟨e, logs, he, fun _ => rfl⟩

private theorem printsLast_of_prints {way : String → Run Unit} (hway : Prints way) (text : String) :
    PrintsLast (fun t t' => t' = t) (way text) :=
  fun t logs => .inr ⟨t, logs, way, text, rfl, hway, fun _ => rfl⟩

private theorem run_writeDrawing (path drawing : String) (s : Session) :
    (writeDrawing path drawing).run.run s =
      match s.tree.write path drawing with
      | .ok tree => (.ok (), { s with tree })
      | .error e =>
        (.error (.during s!"Failed to write DOT output to {path}" (.plain e.message)), s) := by
  have htree : tree.run.run s = (.ok s.tree, s) := rfl
  rw [writeDrawing, run_bind, htree]
  dsimp only
  cases s.tree.write path drawing <;> rfl

/-- `writeDrawing` may fail, and then nothing is printed either. -/
private theorem printsLast_writeDrawing (path drawing text : String) :
    PrintsLast (fun t t' => t.write path drawing = .ok t')
      (do writeDrawing path drawing; print text) := by
  intro t logs
  cases hwrite : t.write path drawing with
  | ok t' =>
    refine .inr ⟨t', logs, print, text, hwrite, .print, fun o => ?_⟩
    rw [run_bind, run_writeDrawing, hwrite]
  | error e =>
    refine .inl ⟨.during s!"Failed to write DOT output to {path}" (.plain e.message), logs, rfl,
      fun o => ?_⟩
    rw [run_bind, run_writeDrawing, hwrite]

/-- What delivering a drawing may do to a tree. Only drawings are written, and only to the file that
is given. -/
def MayDeliver (file : Option String) (t t' : FileTree) : Prop :=
  match file with
  | none => t' = t
  | some path => checkOutputPath path = .ok () ∧ ∃ g : CallGraph, t.write path g.toDrawing = .ok t'

private theorem printsLast_deliver (file : Option String) (g : CallGraph) :
    PrintsLast (MayDeliver file) (deliver file g.toDrawing) := by
  cases file with
  | none => exact printsLast_of_prints .print _
  | some path =>
    unfold deliver
    dsimp only
    cases hcheck : checkOutputPath path with
    | error e => exact printsLast_throw (exit_of_checkOutputPath hcheck)
    | ok _ =>
      have hwrite := printsLast_writeDrawing path g.toDrawing s!"DOT graph saved to: {path}\n"
      exact hwrite.mono fun t t' h => ⟨hcheck, g, h⟩

private theorem printsLast_runDrawing (f : Flags) (c : Settings) :
    PrintsLast (MayDeliver f.dotFile) (runDrawing f c) := by
  unfold runDrawing
  refine .bind (quiet_note _) fun _ => ?_
  refine .bind quiet_tree fun t => ?_
  refine .bind (quiet_take _ fun _ => rfl) fun (g, notes) => ?_
  refine .bind (quiet_note _) fun _ => ?_
  exact printsLast_deliver f.dotFile g

private theorem printsLast_runReport (f : Flags) (c : Settings) (file : Option FileSettings) :
    PrintsLast (MayDeliver none) (runReport f c file) := by
  unfold runReport
  refine .bind quiet_tree fun t => ?_
  refine .bind (quiet_take _ fun _ => rfl) fun (r, notes) => ?_
  refine .bind (quiet_note _) fun _ => ?_
  split
  · exact printsLast_of_prints .print _
  · exact printsLast_of_prints .plain _

/-- Whatever stops `runFlags` stops it before its effects, or it is that a text does not come
through. -/
private theorem printsLast_runFlags (f : Flags) :
    PrintsLast (MayDeliver f.dotFile) (runFlags f) := by
  unfold runFlags
  refine .bind quiet_tree fun t => ?_
  refine .bind (quiet_take _ fun _ => rfl) fun i => ?_
  refine .bind (quiet_take _ fun _ => rfl) fun file => ?_
  refine .bind (quiet_take _ fun _ => rfl) fun c => ?_
  refine .bind (quiet_note _) fun _ => ?_
  split
  case isTrue => exact printsLast_runDrawing f c
  case isFalse hreport =>
    -- A file for the drawing would have made this a run that draws.
    have hfile : f.dotFile = none := by simp_all
    rw [hfile]
    exact printsLast_runReport f c file

/-! ## Printing -/

private theorem run_printOr (handle : String → Run Unit) (text : String) (s : Session) :
    (printOr handle text).run.run s =
      match s.stdout.write text with
      | (stdout, none) => (.ok (), { s with stdout })
      | (stdout, some message) => (handle message).run.run { s with stdout } := by
  have hput : (put text).run.run s =
      (.ok (s.stdout.write text).2, { s with stdout := (s.stdout.write text).1 }) := rfl
  rw [printOr, run_bind, hput]
  dsimp only
  rcases s.stdout.write text with ⟨stdout, _ | message⟩ <;> rfl

private theorem Prints.run_of_working {way : String → Run Unit} (hway : Prints way) (text : String)
    (t : FileTree) (logs : List Log.Entry) :
    (way text).run.run ⟨t, {}, logs⟩ = (.ok (), ⟨t, { text }, logs⟩) := by
  have hwrite : ({} : Stdout).write text = ({ text }, none) := by
    rw [Stdout.write, String.empty_append]
  cases hway with
  | print => rw [Run.print, run_printOr, hwrite]
  | plain => rw [Run.printPlain, run_printOr, hwrite]

/-- `Stdout.write` with a limit: what comes through of a text, and whether that is all of it. -/
private theorem write_of_limit (l : OutputLimit) (text : String) :
    ∃ o : Stdout, o.text = String.ofList (text.toList.take l.room) ∧
      ({ limit := some l } : Stdout).write text =
        (o, if l.room < text.length then some l.message else none) := by
  refine ⟨(({ limit := some l } : Stdout).write text).1, String.empty_append, Prod.ext rfl ?_⟩
  have hcut : (text.toList.take l.room).length < text.length ↔ l.room < text.length := by
    rw [List.length_take, String.length_toList]
    omega
  simp only [Stdout.write, hcut]

/-- A standard output with a limit takes a beginning of the text. If that is not all of it, the run
stops. -/
theorem Prints.run_of_limit {way : String → Run Unit} (hway : Prints way) (text : String)
    (t : FileTree) (logs : List Log.Entry) (l : OutputLimit) :
    ∃ result s, (way text).run.run ⟨t, { limit := some l }, logs⟩ = (result, s) ∧ s.tree = t ∧
      s.stdout.text = String.ofList (text.toList.take l.room) ∧
      (text.length ≤ l.room → result = .ok ()) ∧
      (l.room < text.length →
        result = .error (.during "Failed to write report" (.plain l.message)) ∨
        result = .error (.panic ("failed printing to stdout: " ++ l.message))) := by
  obtain ⟨o, htext, hwrite⟩ := write_of_limit l text
  by_cases hcut : l.room < text.length
  · -- Part of the text is lost, and the two ways to print deal with it differently.
    have hnot : ¬ text.length ≤ l.room := Nat.not_le.mpr hcut
    rw [if_pos hcut] at hwrite
    cases hway with
    | print =>
      let message := "failed printing to stdout: " ++ l.message
      refine ⟨.error (.panic message), ⟨t, o, logs ++ [Log.note .error s!"panic: {message}"]⟩,
        ?_, rfl, htext, fun h => absurd h hnot, fun _ => .inr rfl⟩
      rw [Run.print, run_printOr, hwrite]
      rfl
    | plain =>
      refine ⟨.error (.during "Failed to write report" (.plain l.message)), ⟨t, o, logs⟩,
        ?_, rfl, htext, fun h => absurd h hnot, fun _ => .inl rfl⟩
      rw [Run.printPlain, run_printOr, hwrite]
      rfl
  · rw [if_neg hcut] at hwrite
    refine ⟨.ok (), ⟨t, o, logs⟩, ?_, rfl, htext, fun _ => rfl, fun h => absurd h hcut⟩
    cases hway with
    | print => rw [Run.print, run_printOr, hwrite]
    | plain => rw [Run.printPlain, run_printOr, hwrite]

/-- The outcome of a run that ends by printing, with a standard output that takes everything. -/
private theorem outcome_of_prints {f : Flags} {t t' : FileTree} {logs : List Log.Entry}
    {way : String → Run Unit} {text : String} (hway : Prints way)
    (hrun : ∀ o : Stdout, (runFlags f).run.run ⟨t, o, []⟩ = (way text).run.run ⟨t', o, logs⟩) :
    f.outcome t none = ⟨0, text, none, logs, t'⟩ := by
  show Outcome.ofEnd ((runFlags f).run.run ⟨t, {}, []⟩) = _
  rw [hrun, hway.run_of_working]
  rfl

/-- The outcome of such a run with a limit: the tree is the same, and the text is cut. -/
private theorem outcome_of_prints_of_limit {f : Flags} {t t' : FileTree} {logs : List Log.Entry}
    {way : String → Run Unit} {text : String} (hway : Prints way)
    (hrun : ∀ o : Stdout, (runFlags f).run.run ⟨t, o, []⟩ = (way text).run.run ⟨t', o, logs⟩)
    (l : OutputLimit) :
    let cut := f.outcome t (some l)
    cut.tree = t' ∧ cut.stdout = String.ofList (text.toList.take l.room) ∧
    (text.length ≤ l.room → cut.trouble = none ∧ cut.exit = 0) ∧
    (l.room < text.length →
      cut.trouble = some (.during "Failed to write report" (.plain l.message)) ∧ cut.exit = 1 ∨
      cut.trouble = some (.panic ("failed printing to stdout: " ++ l.message)) ∧
      cut.exit = 2) := by
  intro cut
  obtain ⟨result, s, hprint, htree, hstdout, hfits, hfails⟩ := hway.run_of_limit text t' logs l
  have hcut : cut = .ofEnd (result, s) := by
    show Outcome.ofEnd ((runFlags f).run.run ⟨t, { limit := some l }, []⟩) = _
    rw [hrun, hprint]
  -- Tree and text are those of the session, however the run has ended.
  have hends : cut.tree = s.tree ∧ cut.stdout = s.stdout.text := by
    rw [hcut]
    cases result <;> exact ⟨rfl, rfl⟩
  refine ⟨hends.1.trans htree, hends.2.trans hstdout, ?_, ?_⟩
  · intro hle
    rw [hcut, hfits hle]
    exact ⟨rfl, rfl⟩
  · intro hlt
    rw [hcut]
    rcases hfails hlt with h | h
    · rw [h]
      exact .inl ⟨rfl, rfl⟩
    · rw [h]
      exact .inr ⟨rfl, rfl⟩

end Run

/-- A drawing of `MayDeliver` stands in one place below the working directory. -/
private theorem Run.MayDeliver.exists_drawing {path : String} {t t' : FileTree}
    (h : Run.MayDeliver (some path) t t') :
    ∃ (names : List String) (g : CallGraph), names ≠ [] ∧
      t.WrittenAt t' (t.cwd ++ names) g.toDrawing ∧
      Path.components (Path.normalize (Path.join t.cwd.text path)) =
        Path.components (Path.normalize t.cwd.text) ++ names.map .name := by
  obtain ⟨hcheck, g, hwrite⟩ := h
  obtain ⟨names, hne, hwritten, htext⟩ := FileTree.write_below hcheck hwrite
  exact ⟨names, g, hne, hwritten, htext⟩

/-- **A run is all or nothing and stays below the working directory.** With a standard output that
takes everything, a run that fails prints nothing and leaves the tree as it is. One that succeeds
changes the tree only if a file is given for the drawing: a file with a drawing then stands in one
place, which is below the working directory, and all other places are as before.

A standard output that takes only so many characters changes nothing about the tree, and cuts what
is printed. The run fails with the same trouble, or because a text that would have been printed is
longer. -/
theorem outcome_all_or_nothing (f : Flags) (t : FileTree) :
    let o := f.outcome t none
    (∀ e, o.trouble = some e → o.exit = 1 ∧ o.stdout = "" ∧ o.tree = t) ∧
    (o.trouble = none → o.exit = 0 ∧
      match f.dotFile with
      | none => o.tree = t
      | some path => ∃ (names : List String) (g : CallGraph), names ≠ [] ∧
        t.WrittenAt o.tree (t.cwd ++ names) g.toDrawing ∧
        Path.components (Path.normalize (Path.join t.cwd.text path)) =
          Path.components (Path.normalize t.cwd.text) ++ names.map .name) ∧
    ∀ l, let cut := f.outcome t (some l)
      cut.tree = o.tree ∧ cut.stdout = String.ofList (o.stdout.toList.take l.room) ∧
      (∀ e, o.trouble = some e → cut.trouble = some e ∧ cut.exit = 1) ∧
      (o.trouble = none → o.stdout.length ≤ l.room → cut.trouble = none ∧ cut.exit = 0) ∧
      (o.trouble = none → l.room < o.stdout.length →
        cut.trouble = some (.during "Failed to write report" (.plain l.message)) ∧ cut.exit = 1 ∨
        cut.trouble = some (.panic ("failed printing to stdout: " ++ l.message)) ∧
        cut.exit = 2) := by
  intro o
  rcases Run.printsLast_runFlags f t [] with
    ⟨e, logs, hexit, hrun⟩ | ⟨t', logs, way, text, ht, hway, hrun⟩
  · -- The run stops before its effects, whatever standard output is.
    have houtcome : ∀ limit, f.outcome t limit = ⟨1, "", some e, logs, t⟩ := by
      intro limit
      rw [Flags.outcome, hrun, Outcome.ofEnd, hexit]
    have ho : o = ⟨1, "", some e, logs, t⟩ := houtcome none
    refine ⟨?_, ?_, ?_⟩
    · intro e' he
      rw [ho]
      exact ⟨rfl, rfl, rfl⟩
    · rw [ho]
      exact nofun
    · intro l cut
      have hcut : cut = ⟨1, "", some e, logs, t⟩ := houtcome (some l)
      rw [ho, hcut]
      exact ⟨rfl, by simp, fun e' he => ⟨he, rfl⟩, nofun, nofun⟩
  · -- Only printing is left, and the drawing has been written.
    have ho : o = ⟨0, text, none, logs, t'⟩ := Run.outcome_of_prints hway hrun
    refine ⟨?_, ?_, ?_⟩
    · rw [ho]
      exact nofun
    · rw [ho]
      refine fun _ => ⟨rfl, ?_⟩
      cases hfile : f.dotFile with
      | none =>
        rw [hfile] at ht
        exact ht
      | some path =>
        rw [hfile] at ht
        exact ht.exists_drawing
    · intro l cut
      obtain ⟨htree, hstdout, hfits, hfails⟩ := Run.outcome_of_prints_of_limit hway hrun l
      rw [ho]
      exact ⟨htree, hstdout, nofun, fun _ => hfits, fun _ => hfails⟩

/-- A drawing is written below the working directory, also where only the first word of the message
about it comes through, and one that would have to stand behind a file is not written. -/
theorem outcome_all_or_nothing_of_two_paths :
    let document :=
      "\x7b\"functions\": [\x7b\"name\": \"app.f\", \"file\": \"a.go\", \"line\": 1\x7d]\x7d"
    let files : FileTree := FileTree.add {} ["work", "out"] .directory
    let t := { files.add ["work", "model.json"] (.file (some document)) with cwd := ["work"] }
    let f (path : String) : Flags :=
      { repo := "app", sources := "a.go", sinks := "b.go", model := "model.json", dotFile := path }
    let cut := (f "./out//graph.dot").outcome t (some ⟨3, "Broken pipe (os error 32)"⟩)
    (∃ (names : List String) (g : CallGraph), names ≠ [] ∧
      t.WrittenAt ((f "./out//graph.dot").outcome t).tree (t.cwd ++ names) g.toDrawing ∧
      Path.components (Path.normalize (Path.join t.cwd.text "./out//graph.dot")) =
        Path.components (Path.normalize t.cwd.text) ++ names.map .name) ∧
    (cut.stdout = "DOT" ∧ cut.tree = ((f "./out//graph.dot").outcome t).tree ∧ cut.trouble ≠ none) ∧
    ∃ e, ((f "model.json/graph.dot").outcome t).trouble = some e ∧
      ((f "model.json/graph.dot").outcome t).exit = 1 ∧
      ((f "model.json/graph.dot").outcome t).stdout = "" ∧
      ((f "model.json/graph.dot").outcome t).tree = t := by
  intro document files t f cut
  have hwritten : ((f "./out//graph.dot").outcome t).trouble = none := by
    rw [← Option.isNone_iff_eq_none]
    decide +kernel
  have hrefused : ((f "model.json/graph.dot").outcome t).trouble.isSome = true := by decide +kernel
  obtain ⟨e, he⟩ := Option.isSome_iff_exists.mp hrefused
  obtain ⟨-, hsuccess, hlimited⟩ := outcome_all_or_nothing (f "./out//graph.dot") t
  obtain ⟨htree, hstdout, -, -, hfails⟩ := hlimited ⟨3, "Broken pipe (os error 32)"⟩
  refine ⟨(hsuccess hwritten).2, ⟨hstdout.trans (by decide +kernel), htree, ?_⟩, e, he,
    (outcome_all_or_nothing (f "model.json/graph.dot") t).1 e he⟩
  rcases hfails hwritten (by decide +kernel) with ⟨hreport, -⟩ | ⟨hpanic, -⟩
  · exact Option.ne_none_iff_exists'.mpr ⟨_, hreport⟩
  · exact Option.ne_none_iff_exists'.mpr ⟨_, hpanic⟩

end CallReach
