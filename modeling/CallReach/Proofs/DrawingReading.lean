import CallReach.Graph.Render
import CallReach.Proofs.ClosureLinking

/-!
# Reading a drawing back

The text that draws a graph is full of names, and names may hold anything: quotes, backslashes, ends
of lines, the arrows and brackets of the language itself. Here is a reader for that language. It
first tells quoted texts from all else, then cuts what it has at the semicolons, then looks at each
statement. A name that stands in quotes comes back as it was and has no part in the statements
around it, so that a drawing gives back all names and edges of its graph.

## Key results

- `symbols_quoted`: a name in quotes is one symbol, whatever it holds and whatever follows
- `read_toDrawing`: a drawing gives back the functions and the edges
- `drawing_loses_nothing`: drawings of different graphs differ
-/

namespace CallReach

namespace Drawing

/-- A symbol of a drawing: a text in quotes, or a character outside of quotes. -/
inductive Symbol where
  | quoted (text : String)
  | mark (c : Char)
  deriving DecidableEq, Repr

/-- Where a reader is: outside of quotes, inside of them, or behind a backslash there. Inside, it
has read some characters, the last one first. -/
inductive Mode where
  | outside
  | inside (back : List Char)
  | escaped (back : List Char)
  deriving DecidableEq, Repr

/-- Whether a character outside of quotes only keeps others apart. -/
def isGap (c : Char) : Bool := c = ' ' || c = '\n'

/-- The symbols of a text. Inside of quotes, a character behind a backslash stands for itself. -/
def symbols : Mode → List Char → List Symbol
  | _, [] => []
  | .outside, c :: cs =>
    if c = '"' then symbols (.inside []) cs
    else if isGap c then symbols .outside cs
    else .mark c :: symbols .outside cs
  | .inside back, c :: cs =>
    if c = '\\' then symbols (.escaped back) cs
    else if c = '"' then .quoted (String.ofList back.reverse) :: symbols .outside cs
    else symbols (.inside (c :: back)) cs
  | .escaped back, c :: cs => symbols (.inside (c :: back)) cs

/-- What a statement of a drawing says. -/
inductive Statement where
  | node (name : String)
  | edge (e : Edge)
  deriving DecidableEq, Repr

/-- The function that a statement names. -/
def Statement.name? : Statement → Option String
  | node name => some name
  | edge _ => none

/-- The edge that a statement gives. -/
def Statement.edge? : Statement → Option Edge
  | node _ => none
  | edge e => some e

/-- The statement that some symbols make up, if it is about functions. An edge with attributes leads
to a closure. -/
def statement? : List Symbol → Option Statement
  | .quoted name :: .mark '[' :: _ => some (.node name)
  | [.quoted a, .mark '-', .mark '>', .quoted b] => some (.edge ⟨⟨a, b⟩, .call⟩)
  | .quoted a :: .mark '-' :: .mark '>' :: .quoted b :: .mark '[' :: _ =>
    some (.edge ⟨⟨a, b⟩, .closure⟩)
  | _ => none

/-- The statements in some symbols, each up to a semicolon. -/
def statements (ss : List Symbol) : List Statement := (ss.splitOn (.mark ';')).filterMap statement?

/-- What the characters of a drawing say about functions and edges. -/
def readChars (cs : List Char) : List Statement := statements (symbols .outside cs)

/-- What a drawing says about functions and edges. -/
def read (text : String) : List Statement := readChars text.toList

/-! ## Symbols -/

/-- The marks that a text without quotes consists of. -/
def marks (cs : List Char) : List Symbol := (cs.filter (!isGap ·)).map .mark

/-- Outside of quotes, `symbols` makes every character a mark of its own. -/
private theorem symbols_plain {cs : List Char} (h : '"' ∉ cs) (rest : List Char) :
    symbols .outside (cs ++ rest) = marks cs ++ symbols .outside rest := by
  induction cs with
  | nil => rfl
  | cons c cs ih =>
    have hc : c ≠ '"' := fun heq => h (heq ▸ List.mem_cons_self)
    have htail := ih fun hmem => h (List.mem_cons_of_mem c hmem)
    by_cases hgap : isGap c = true
    · simpa [symbols, marks, hc, hgap] using htail
    · simpa [symbols, marks, hc, hgap] using htail

/-- Inside of quotes, `symbols` reads back what `escapeChar` has written, and the quotes stay
open. -/
private theorem symbols_escaped (cs back rest : List Char) :
    symbols (.inside back) (cs.flatMap CallGraph.escapeChar ++ rest) =
      symbols (.inside (cs.reverse ++ back)) rest := by
  induction cs generalizing back with
  | nil => rfl
  | cons c cs ih =>
    rw [List.flatMap_cons, List.append_assoc, List.reverse_cons, List.append_assoc,
      List.singleton_append, ← ih]
    -- A backslash and a quote are read behind a backslash, everything else by itself.
    by_cases hslash : c = '\\'
    · subst hslash
      simp [CallGraph.escapeChar, symbols]
    by_cases hquote : c = '"'
    · subst hquote
      simp [CallGraph.escapeChar, symbols]
    simp [CallGraph.escapeChar, symbols, hslash, hquote]

/-- `symbols` takes a name in quotes for one symbol, whatever it holds and whatever follows. -/
theorem symbols_quoted (name : String) (rest : List Char) :
    symbols .outside ((CallGraph.quoted name).toList ++ rest) =
      .quoted name :: symbols .outside rest := by
  have hopen : (CallGraph.quoted name).toList ++ rest =
      '"' :: (name.toList.flatMap CallGraph.escapeChar ++ '"' :: rest) := by
    simp [CallGraph.quoted]
  rw [hopen]
  show symbols (.inside []) _ = _
  rw [symbols_escaped]
  simp [symbols]

/-- A name that looks like an edge between two others. -/
example : symbols .outside (CallGraph.quoted "a\" -> \"b\\").toList =
    [.quoted "a\" -> \"b\\"] := by
  decide

/-! ## Statements -/

private theorem statements_append {ss : List Symbol} (h : .mark ';' ∉ ss) (rest : List Symbol) :
    statements (ss ++ .mark ';' :: rest) = (statement? ss).toList ++ statements rest := by
  have hsplit : (ss ++ .mark ';' :: rest).splitOn (.mark ';') = ss :: rest.splitOn (.mark ';') := by
    apply List.splitOnP_append_cons_of_forall_mem
    · intro s hs
      have hne : s ≠ .mark ';' := fun heq => h (heq ▸ hs)
      simpa using hne
    · simp
  rw [statements, hsplit, List.filterMap_cons]
  cases statement? ss <;> rfl

/-! ## Lines -/

/-- `drawingHead` says nothing about functions. -/
private theorem readChars_head (rest : List Char) :
    readChars (CallGraph.drawingHead.toList ++ rest) = readChars rest := by
  have hhead : CallGraph.drawingHead.toList =
      "digraph ReachabilityGraph \x7b\n    rankdir=LR;\n    node [shape=box, fontname=".toList ++
        ((CallGraph.quoted "monospace").toList ++ "];\n\n".toList) := by
    simp [CallGraph.drawingHead, CallGraph.quoted, CallGraph.escapeChar]
  have hmarks : marks "digraph ReachabilityGraph \x7b\n    rankdir=LR;\n    node [shape=box, fontname=".toList =
      marks "digraphReachabilityGraph\x7brankdir=LR".toList ++
        .mark ';' :: marks "node[shape=box,fontname=".toList := by
    simp [marks, isGap]
  have hend : marks "];\n\n".toList = [.mark ']', .mark ';'] := by decide
  -- Two statements, neither of which starts with a name in quotes.
  have hsymbols : symbols .outside (CallGraph.drawingHead.toList ++ rest) =
      marks "digraphReachabilityGraph\x7brankdir=LR".toList ++ .mark ';' ::
        ((marks "node[shape=box,fontname=".toList ++ [.quoted "monospace", .mark ']']) ++
          .mark ';' :: symbols .outside rest) := by
    rw [hhead, List.append_assoc, List.append_assoc, symbols_plain (by decide +kernel),
      symbols_quoted, symbols_plain (by decide), hmarks, hend]
    simp
  rw [readChars, hsymbols, statements_append (by decide +kernel),
    statements_append (by decide +kernel)]
  rfl

/-- `readChars` of a line with two names in quotes, and no quotes or semicolons around them: it is
one statement. -/
private theorem readChars_line {between after : List Char}
    (hbetween : '"' ∉ between ∧ ';' ∉ between) (hafter : '"' ∉ after ∧ ';' ∉ after) (a b : String)
    (rest : List Char) :
    readChars ("    ".toList ++ ((CallGraph.quoted a).toList ++ (between ++
      ((CallGraph.quoted b).toList ++ (after ++ (";\n".toList ++ rest)))))) =
      (statement? (.quoted a :: (marks between ++ .quoted b :: marks after))).toList ++
        readChars rest := by
  have hmarks : ∀ cs : List Char, ';' ∉ cs → Symbol.mark ';' ∉ marks cs := by
    intro cs hcs hmem
    simp [marks, hcs] at hmem
  have hstatement : Symbol.mark ';' ∉ .quoted a :: (marks between ++ .quoted b :: marks after) := by
    simp [hmarks between hbetween.2, hmarks after hafter.2]
  -- The line is read from left to right, piece by piece.
  rw [readChars, symbols_plain (by decide), symbols_quoted, symbols_plain hbetween.1,
    symbols_quoted, symbols_plain hafter.1, symbols_plain (by decide)]
  have hend : marks ";\n".toList = [.mark ';'] := by decide
  have hindent : marks "    ".toList = [] := by decide
  rw [hend, hindent, readChars, ← statements_append hstatement]
  simp

private theorem readChars_nodeLine (f : Function) (rest : List Char) :
    readChars ((CallGraph.nodeLine f).toList ++ rest) = .node f.name :: readChars rest := by
  have hline : (CallGraph.nodeLine f).toList ++ rest =
      "    ".toList ++ ((CallGraph.quoted f.name).toList ++ (" [label=".toList ++
        ((CallGraph.quoted f.shortName).toList ++ ("]".toList ++ (";\n".toList ++ rest))))) := by
    simp [CallGraph.nodeLine]
  rw [hline, readChars_line (by decide) (by decide)]
  rfl

private theorem readChars_edgeLine (e : Edge) (rest : List Char) :
    readChars ((CallGraph.edgeLine e).toList ++ rest) = .edge e :: readChars rest := by
  obtain ⟨⟨a, b⟩, kind⟩ := e
  -- The attributes behind the second name tell the kind.
  cases kind with
  | call =>
    have hline : (CallGraph.edgeLine ⟨⟨a, b⟩, .call⟩).toList ++ rest =
        "    ".toList ++ ((CallGraph.quoted a).toList ++ (" -> ".toList ++
          ((CallGraph.quoted b).toList ++ ("".toList ++ (";\n".toList ++ rest))))) := by
      simp [CallGraph.edgeLine]
    rw [hline, readChars_line (by decide) (by decide)]
    rfl
  | closure =>
    have hline : (CallGraph.edgeLine ⟨⟨a, b⟩, .closure⟩).toList ++ rest =
        "    ".toList ++ ((CallGraph.quoted a).toList ++ (" -> ".toList ++
          ((CallGraph.quoted b).toList ++
            (" [style=dashed]".toList ++ (";\n".toList ++ rest))))) := by
      simp [CallGraph.edgeLine]
    rw [hline, readChars_line (by decide) (by decide)]
    rfl

/-- `readChars` of lines that say one thing each. -/
private theorem readChars_join {α : Type} {line : α → String} {said : α → Statement}
    (h : ∀ x rest, readChars ((line x).toList ++ rest) = said x :: readChars rest) (xs : List α)
    (rest : List Char) :
    readChars ((String.join (xs.map line)).toList ++ rest) = xs.map said ++ readChars rest := by
  rw [String.toList_join]
  induction xs with
  | nil => rfl
  | cons x xs ih =>
    rw [List.map_cons, List.flatMap_cons, List.append_assoc, h, ih]
    rfl

end Drawing

namespace CallGraph

variable {g h : CallGraph}

/-- `read` gives back the functions and the edges that `toDrawing` has drawn. -/
theorem read_toDrawing (hn : Named g.nodes) :
    Drawing.read g.toDrawing = g.nodes.keys.map .node ++ g.edges.map .edge := by
  have htext : g.toDrawing.toList = drawingHead.toList ++
      ((String.join (g.nodes.values.map nodeLine)).toList ++
        ("\n".toList ++ ((String.join (g.edges.map edgeLine)).toList ++ "\x7d\n".toList))) := by
    simp [toDrawing]
  -- Neither the empty line nor the bracket at the end says anything.
  have hgap : ∀ rest, Drawing.readChars ("\n".toList ++ rest) = Drawing.readChars rest :=
    fun _ => rfl
  have hend : Drawing.readChars "\x7d\n".toList = [] := by decide
  rw [Drawing.read, htext, Drawing.readChars_head,
    Drawing.readChars_join Drawing.readChars_nodeLine, hgap,
    Drawing.readChars_join Drawing.readChars_edgeLine, hend, List.append_nil, ← map_name_values hn,
    List.map_map]
  rfl

private theorem statements_inj {names names' : List String} {es es' : List Edge}
    (heq : names.map Drawing.Statement.node ++ es.map .edge = names'.map .node ++ es'.map .edge) :
    names = names' ∧ es = es' := by
  have hnames := congrArg (List.filterMap Drawing.Statement.name?) heq
  have hedges := congrArg (List.filterMap Drawing.Statement.edge?) heq
  constructor
  · simpa [Function.comp_def, Drawing.Statement.name?] using hnames
  · simpa [Function.comp_def, Drawing.Statement.edge?] using hedges

/-- `toDrawing` depends on the names of functions and on the edges alone. -/
private theorem toDrawing_congr (hg : Named g.nodes) (hh : Named h.nodes)
    (hnames : g.nodes.keys = h.nodes.keys) (hedges : g.edges = h.edges) :
    g.toDrawing = h.toDrawing := by
  have hlines : ∀ {nodes : Std.TreeMap String Function}, Named nodes →
      nodes.values.map nodeLine = nodes.keys.map fun name => nodeLine { name } := by
    intro nodes hn
    -- The short name, which is the label, is computed from the name.
    rw [← map_name_values hn, List.map_map]
    rfl
  rw [toDrawing, toDrawing, hlines hg, hlines hh, hnames, hedges]

private theorem named_changeAll (p : Program) (c : Settings) (xs : List Change) :
    Named ((ofModule (Module.ofProgram c p)).changeAll xs).1.nodes := by
  rw [(grows_changeAll _ xs).nodes, ofModule_nodes]
  exact Module.named_ofProgram c p

/-- **A drawing loses nothing.** Let two graphs be made of modules by any changes. A drawing gives
back the names of all functions and all edges with their kinds, in order, so that two drawings are
the same text exactly if the graphs have the same names and edges. Nothing in a name can end its
quotes: a name in quotes is one symbol, and what follows it is read as if the name was not there. -/
theorem drawing_loses_nothing (p q : Program) (c d : Settings) (xs ys : List Change) :
    let g := ((ofModule (Module.ofProgram c p)).changeAll xs).1
    let h := ((ofModule (Module.ofProgram d q)).changeAll ys).1
    Drawing.read g.toDrawing = g.nodes.keys.map .node ++ g.edges.map .edge ∧
    (g.toDrawing = h.toDrawing ↔ g.nodes.keys = h.nodes.keys ∧ g.edges = h.edges) ∧
    ∀ name rest, Drawing.symbols .outside ((quoted name).toList ++ rest) =
      .quoted name :: Drawing.symbols .outside rest := by
  intro g h
  have hg : Named g.nodes := named_changeAll p c xs
  have hh : Named h.nodes := named_changeAll q d ys
  refine ⟨read_toDrawing hg, ⟨?_, ?_⟩, Drawing.symbols_quoted⟩
  · intro heq
    have hread := congrArg Drawing.read heq
    rw [read_toDrawing hg, read_toDrawing hh] at hread
    exact statements_inj hread
  · rintro ⟨hnames, hedges⟩
    exact toDrawing_congr hg hh hnames hedges

end CallGraph

end CallReach
