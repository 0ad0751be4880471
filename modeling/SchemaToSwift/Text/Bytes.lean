import SchemaToSwift.Text.Point

/-!
# Bytes in a text

The halves from U+DC80 to U+DCFF stand for the bytes from 128 on where a text is a name in a file
system, which is a sequence of bytes. `joinBytes` puts those next to each other that are a character
in UTF-8 together to that character, so that two texts with the same bytes become one;
`joinBytes_of_noByte` says that a text without such halves stays as it is.
-/

namespace SchemaToSwift.Text

/-- The byte that a code point stands for. -/
def Point.byte? : Point → Option Nat
  | char _ => none
  | half offset =>
    if 0x480 ≤ offset.val ∧ offset.val < 0x500 then some (offset.val - 0x400) else none

/-- What the first byte of a character says: the number of bytes after it, its own bits, and the
least code point that needs as many bytes. -/
def leading? (byte : Nat) : Option (Nat × Nat × Nat) :=
  if 0xc0 ≤ byte ∧ byte < 0xe0 then some (1, byte - 0xc0, 0x80)
  else if 0xe0 ≤ byte ∧ byte < 0xf0 then some (2, byte - 0xe0, 0x800)
  else if 0xf0 ≤ byte ∧ byte < 0xf8 then some (3, byte - 0xf0, 0x10000)
  else none

/-- The character that begins with a byte, and the number of bytes after it that belong to it. -/
def encoded? (byte : Nat) (following : List Nat) : Option (Char × Nat) := do
  let (count, bits, least) ← leading? byte
  let others := following.take count
  if others.length < count || others.any fun b => b < 0x80 || 0xc0 ≤ b then none
  let code := others.foldl (fun n b => 64 * n + (b - 0x80)) bits
  if least ≤ code ∧ code.isValidChar then some (Char.ofNat code, count) else none

/-- The greatest number of bytes after the first one of a character. -/
def maxFollowing : Nat := 3

/-- The code points with bytes that are a character put together to it. -/
def joinBytes : List Point → List Point
  | [] => []
  | p :: rest =>
    let following := (rest.take maxFollowing).map fun q => (q.byte?).getD 0
    match p.byte?.bind (encoded? · following) with
    | some (c, count) => .char c :: joinBytes (rest.drop count)
    | none => p :: joinBytes rest
termination_by ps => ps.length
decreasing_by
  · simp only [List.length_drop, List.length_cons]; omega
  · simp

/-- Code points none of which stands for a byte stay as they are. -/
theorem joinBytes_of_noByte {ps : List Point} (h : ∀ p ∈ ps, p.byte? = none) :
    joinBytes ps = ps := by
  induction ps with
  | nil => simp [joinBytes]
  | cons p ps ih =>
    have here : p.byte? = none := h p (by simp)
    rw [joinBytes, here, ih fun q hq => h q (by simp [hq])]
    rfl

end SchemaToSwift.Text
