/-!
# Text measured in bytes

Offsets in trees, errors and spans count the bytes of the UTF-8 form of a
text. The text itself is a list of characters, so that a position between two
characters is always a position between two whole encodings: `cut` turns a
byte offset into such a position, moving back to the nearest one.
-/

namespace OperatorPeg.Text

/-- Number of bytes in the UTF-8 form of `cs`. -/
def byteLength : List Char → Nat
  | [] => 0
  | c :: cs => c.utf8Size + byteLength cs

/-- Split `cs` after the longest beginning that takes at most `n` bytes. -/
def cut : Nat → List Char → List Char × List Char
  | _, [] => ([], [])
  | n, c :: cs =>
      if c.utf8Size ≤ n then
        let (taken, rest) := cut (n - c.utf8Size) cs
        (c :: taken, rest)
      else
        ([], c :: cs)

theorem byteLength_append (a b : List Char) :
    byteLength (a ++ b) = byteLength a + byteLength b := by
  induction a with
  | nil => simp [byteLength]
  | cons c a ih => simp [byteLength, ih, Nat.add_assoc]

theorem cut_append (n : Nat) (cs : List Char) : (cut n cs).1 ++ (cut n cs).2 = cs := by
  induction cs generalizing n with
  | nil => rfl
  | cons c cs ih =>
      by_cases h : c.utf8Size ≤ n
      · simp [cut, h, ih]
      · simp [cut, h]

theorem byteLength_cut_le (n : Nat) (cs : List Char) : byteLength (cut n cs).1 ≤ n := by
  induction cs generalizing n with
  | nil => simp [cut, byteLength]
  | cons c cs ih =>
      by_cases h : c.utf8Size ≤ n
      · have := ih (n - c.utf8Size)
        simp only [cut, h, if_true, byteLength]
        omega
      · simp [cut, h, byteLength]

/-- Join pieces of text with a separator between two neighbours. -/
def joinWith (separator : String) : List String → String
  | [] => ""
  | piece :: rest => rest.foldl (fun acc next => acc ++ separator ++ next) piece

/-- `piece` written `n` times. -/
def repeated (n : Nat) (piece : String) : String :=
  String.join (List.replicate n piece)

end OperatorPeg.Text
