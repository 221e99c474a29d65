import StateMachine.Quoted.Extending
import StateMachine.Quoted.Invisible
import StateMachine.Quoted.Unassigned

/-!
# Quoted text

A text between double quotes on one line: quotes and backslashes are escaped, and so is every
character that could not be told apart on its own. The common controls are escaped by a letter and
all others by their code in hexadecimal.

* `Quoted.isPlain`: whether a character can be shown as it is.
* `Quoted.escape`, `Quoted.encode`: one character, and a text in quotes.
-/

namespace StateMachine.Quoted

/-- Whether a character can be shown as it is: it is assigned, it shows something, and it stands
for itself instead of extending the character before it. -/
def isPlain (c : Char) : Bool :=
  !(extending.contains c || invisible.contains c || unassigned.contains c)

/-- The escape of one character. -/
def escape (c : Char) : List Char :=
  match c with
  | '"' => ['\\', '"']
  | '\\' => ['\\', '\\']
  | '\n' => ['\\', 'n']
  | '\t' => ['\\', 't']
  | '\r' => ['\\', 'r']
  | '\x00' => ['\\', '0']
  | c =>
    if isPlain c then [c] else ['\\', 'u', '\x7b'] ++ Nat.toDigits 16 c.toNat ++ ['\x7d']

/-- A text in quotes. -/
def encode (text : String) : String :=
  String.ofList (['"'] ++ text.toList.flatMap escape ++ ['"'])

/-- Among the first characters, those from the space to the tilde are plain. -/
theorem isPlain_iff_of_lt {c : Char} (h : c.toNat < 0x80) :
    isPlain c = true ↔ 0x20 ≤ c.toNat ∧ c.toNat < 0x7f := by
  have table : ∀ n < 0x80,
      (!(covers extending.ranges n || covers invisible.ranges n || covers unassigned.ranges n)) =
        decide (0x20 ≤ n ∧ n < 0x7f) := by
    decide +kernel
  have entry := table c.toNat h
  rw [isPlain, CharSet.contains, CharSet.contains, CharSet.contains, entry, decide_eq_true_eq]

end StateMachine.Quoted
