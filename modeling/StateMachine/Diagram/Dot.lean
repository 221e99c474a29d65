import StateMachine.Diagram
import StateMachine.Diagram.Writer

/-!
# Graph documents

The document from which a graph layout is made: some attributes, one line for each state with its
display name and description in the cells of a table, and one line for each arrow.

* `Dot.quoted`, `Dot.cell`: the escapes inside quotes and inside a table's cell.
* `Arrow.dotParts`, `Node.dotParts`: the lines, in the parts in which they are written.
* `Definition.dotLines`: the lines of the document.
* `Definition.dot`: the document as text.
* `Definition.writeDot`: writes the document; nothing is written if the definition is refused.
-/

namespace StateMachine

namespace Dot

/-- A character inside quotes. -/
def quotedChar : Char → List Char
  | '\\' => ['\\', '\\']
  | '"' => ['\\', '"']
  | c => [c]

/-- A text inside quotes. -/
def quoted (text : String) : String := String.ofList (text.toList.flatMap quotedChar)

/-- A character inside a cell. -/
def cellChar : Char → List Char
  | '&' => "&amp;".toList
  | '<' => "&lt;".toList
  | '>' => "&gt;".toList
  | c => [c]

/-- A text inside a cell. -/
def cell (text : String) : String := String.ofList (text.toList.flatMap cellChar)

/-- The attributes of the graph, its nodes and its edges. -/
def attributes : List String :=
  [ "rankdir=LR;",
    "layout=fdp;",
    "size=\"3,3\";",
    "overlap=false;",
    "splines=false;",
    "sep=0.8;",
    "inputscale=0.4;",
    "K=0.50;",
    "maxiter=2000;",
    "start=1251;",
    "graph [splines=\"spline\", ranksep=\"2\", nodesep=\"1\"];",
    "node [shape=plaintext];",
    "edge [constraint=true, fontname = \"sans-serif\"];" ]

/-- The first lines of a document. -/
def opening : List String := "digraph \x7b\n" :: attributes.map (· ++ "\n")

/-- The first lines, in the parts in which they are written. -/
def openingParts : List String :=
  "digraph \x7b\n" :: attributes.flatMap fun a => [a, "\n"]

/-- The last line of a document. -/
def closing : String := "\x7d\n"

end Dot

/-- The line of an arrow, in the parts in which it is written. -/
def Arrow.dotParts (a : Arrow) : List String :=
  ["\"", Dot.quoted a.source.name, "\" -> \"", Dot.quoted a.destination.name, "\"[label=\"",
    Dot.quoted a.trigger.name, "\"];\n"]

/-- The line of an arrow. -/
def Arrow.dot (a : Arrow) : String := String.join a.dotParts

variable {π ν : Type}

/-- The line of a state, in the parts in which it is written. -/
def Node.dotParts (n : Node π ν) : List String :=
  ["\"", Dot.quoted n.state.name,
    "\" [label=<<TABLE STYLE=\"ROUNDED\" BGCOLOR=\"orange\" BORDER=\"1\" CELLSPACING=\"0\"" ++
      " WIDTH=\"20\"><TR><TD BORDER=\"1\" sides=\"b\">",
    Dot.cell n.displayName, "</TD></TR><TR><TD BORDER=\"0\">",
    Dot.cell (n.caption.description.getD ""), "</TD></TR></TABLE>>];\n"]

/-- The line of a state. -/
def Node.dot (n : Node π ν) : String := String.join n.dotParts

namespace Definition

/-- The lines of the document. -/
def dotLines (d : Definition π ν) : List String :=
  Dot.opening ++ d.nodes.map Node.dot ++ d.arrows.map Arrow.dot ++ [Dot.closing]

/-- The document. -/
def dot (d : Definition π ν) : Except RenderError String :=
  match d.refusal? with
  | some reason => .error reason
  | none => .ok (String.join d.dotLines)

/-- Writes the document with a writer. It breaks off when the first lines or the lines of the states
cannot be written. The arrows are all visited then, but nothing is written after a failure. -/
def writeDot {σ : Type} (w : Writer σ) (s : σ) (d : Definition π ν) :
    σ × Except RenderError Unit :=
  match d.refusal? with
  | some reason => (s, .error reason)
  | none =>
    match w.writeTexts s (Dot.openingParts ++ d.nodes.flatMap Node.dotParts) with
    | (s', .error f) => (s', .error (.io f))
    | (s', .ok ()) =>
      let visited := d.arrows.foldl (fun r a => w.writeNext r a.dotParts) (s', .ok ())
      match w.writeNext visited [Dot.closing] with
      | (s'', .error f) => (s'', .error (.io f))
      | (s'', .ok ()) => (s'', .ok ())

end Definition

end StateMachine
