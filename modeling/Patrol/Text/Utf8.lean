/-! Texts as bytes, in UTF-8. -/
namespace Patrol.Text

/-- The bytes of a text. -/
def bytesOf (cs : List Char) : List UInt8 := cs.flatMap String.utf8EncodeChar

/-- The bytes that may follow a leading byte, and how many more come behind that one: `none` for
bytes that lead nothing. The second byte is restricted where the encoding would be longer than
needed, or the character a surrogate or beyond the last one. -/
def following? (lead : UInt8) : Option (UInt8 × UInt8 × Nat) :=
  if lead < 0xC2 then none
  else if lead < 0xE0 then some (0x80, 0xBF, 0)
  else if lead == 0xE0 then some (0xA0, 0xBF, 1)
  else if lead == 0xED then some (0x80, 0x9F, 1)
  else if lead < 0xF0 then some (0x80, 0xBF, 1)
  else if lead == 0xF0 then some (0x90, 0xBF, 2)
  else if lead < 0xF4 then some (0x80, 0xBF, 2)
  else if lead == 0xF4 then some (0x80, 0x8F, 2)
  else none

/-- Reads `count` continuation bytes onto `code`, the first of them between `lo` and `hi`. Gives
the code, or `none` where one is missing, and the bytes that were not used. -/
def readFollowing (lo hi : UInt8) : Nat → Nat → List UInt8 → Option Nat × List UInt8
  | 0, code, bytes => (some code, bytes)
  | _ + 1, _, [] => (none, [])
  | count + 1, code, b :: bytes =>
    if lo ≤ b && b ≤ hi then readFollowing 0x80 0xBF count (code * 64 + b.toNat % 64) bytes
    else (none, b :: bytes)

/-- The first character of some bytes with the rest of them; `none` stands for bytes that begin a
character without finishing it, or lead nothing. -/
def readChar (lead : UInt8) (bytes : List UInt8) : Option Char × List UInt8 :=
  if lead < 0x80 then (some (Char.ofNat lead.toNat), bytes)
  else
    match following? lead with
    | none => (none, bytes)
    | some (lo, hi, more) =>
      let top := lead.toNat % (if more = 0 then 32 else if more = 1 then 16 else 8)
      match readFollowing lo hi (more + 1) top bytes with
      | (code, rest) => (code.map Char.ofNat, rest)

theorem length_readFollowing (lo hi : UInt8) (count code : Nat) (bytes : List UInt8) :
    (readFollowing lo hi count code bytes).2.length ≤ bytes.length := by
  fun_induction readFollowing lo hi count code bytes <;> simp_all; omega

theorem length_readChar (lead : UInt8) (bytes : List UInt8) :
    (readChar lead bytes).2.length ≤ bytes.length := by
  unfold readChar
  split
  · simp
  · split
    · simp
    · exact length_readFollowing ..

/-- The characters that bytes encode, with `none` for each stretch that is none. -/
def decode : List UInt8 → List (Option Char)
  | [] => []
  | lead :: bytes => (readChar lead bytes).1 :: decode (readChar lead bytes).2
termination_by bytes => bytes.length
decreasing_by
  have := length_readChar lead bytes
  simp only [List.length_cons]
  omega

/-- The text of some bytes, where all of them are text. -/
def text? (bytes : List UInt8) : Option String :=
  (decode bytes).mapM id |>.map String.ofList

/-- The character that stands for bytes that are none. -/
def replacement : Char := Char.ofNat 0xFFFD

/-- The text of any bytes: each stretch that is no character becomes one replacement. -/
def lossyText (bytes : List UInt8) : String :=
  String.ofList ((decode bytes).map (·.getD replacement))

end Patrol.Text
