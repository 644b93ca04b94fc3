import Patrol.Proofs.Text.Encoding

/-! Reading bytes as characters. What is read as a character is the encoding of that character, all
of the encoding of a text is read, and each maximal stretch that is no character is replaced. No byte
of an ASCII character is among what is replaced, so a word of such characters stands in the text that
is read exactly where its bytes stand in a row. -/
namespace Patrol.Text
variable {c : Char} {lead lo hi : UInt8} {bytes rest used tail : List UInt8} {more : Nat}

/-! ## What is read first -/

theorem readChar_of_leads (leads : Leads lead lo hi more) (bytes : List UInt8) :
    readChar lead bytes =
      ((readFollowing lo hi (more + 1) (leadBits more lead) bytes).1.map Char.ofNat,
        (readFollowing lo hi (more + 1) (leadBits more lead) bytes).2) := by
  have wide : ¬lead < 0x80 := by
    rw [UInt8.lt_iff_toNat_lt]
    cases leads <;> simp only [UInt8.reduceToNat] <;> omega
  rw [readChar, if_neg wide, following?_eq_some_iff.2 leads]
  rfl

/-- The encoding of a character in front is read as that character. -/
theorem readChar_encoding (encoding : lead :: bytes = String.utf8EncodeChar c ++ rest) :
    readChar lead bytes = (some c, rest) := by
  obtain ⟨ascii, encoded⟩ | ⟨lead', tail, lo, hi, more, encoded, leads, follow, all, code⟩ :=
    utf8EncodeChar_cases c
  · rw [encoded] at encoding
    obtain ⟨rfl, rfl⟩ := List.cons.inj encoding
    have whole : (UInt8.ofNat c.toNat).toNat = c.toNat := by
      rw [UInt8.toNat_ofNat']
      omega
    have small : UInt8.ofNat c.toNat < 0x80 := by
      rw [UInt8.lt_iff_toNat_lt, whole]
      exact ascii
    rw [readChar, if_pos small, whole, Char.ofNat_toNat]
  · rw [encoded] at encoding
    obtain ⟨rfl, rfl⟩ := List.cons.inj encoding
    have read := readFollowing_append follow (leadBits more lead) rest
    rw [all, code] at read
    rw [readChar_of_leads leads, List.append_eq, read, Option.map_some, Char.ofNat_toNat]

/-- Whether bytes begin the encoding of a character. -/
def Begun (used : List UInt8) : Prop := ∃ c, used <+: String.utf8EncodeChar c

/-- A maximal stretch of bytes that is no character, in front of the rest: no character is encoded
there, and either the stretch begins one and goes on as long as it does, or no two bytes begin one
and the stretch is a single byte. -/
structure Subpart (used rest : List UInt8) : Prop where
  nonempty : used ≠ []
  malformed : ∀ c, ¬String.utf8EncodeChar c <+: used ++ rest
  begun : used.length = 1 ∨ Begun used
  longest : ∀ longer, longer <+: used ++ rest → Begun longer → longer.length ≤ used.length

/-- A leading byte with some that can follow it begins a character, for it can be completed. -/
theorem begun_of_follow (leads : Leads lead lo hi more) (follow : Follow lo hi tail)
    (some : tail ≠ []) (few : tail.length ≤ more + 1) : Begun (lead :: tail) := by
  have complete := follow.append some (follow_replicate (more + 1 - tail.length))
  have encoded := utf8EncodeChar_joined leads complete (by simp; omega)
  exact ⟨_, _, encoded.symm⟩

/-- More than one byte begin a character only if the first leads it and the others can follow. -/
theorem leads_of_begun (begun : Begun (lead :: tail)) (some : tail ≠ []) :
    ∃ lo hi more, Leads lead lo hi more ∧ Follow lo hi tail := by
  obtain ⟨c, rest, encoding⟩ := begun
  obtain ⟨-, encoded⟩ | ⟨_, _, lo, hi, more, encoded, leads, follow, -, -⟩ := utf8EncodeChar_cases c
  · rw [encoded] at encoding
    exact absurd (List.append_eq_nil_iff.1 (List.cons.inj encoding).2).1 some
  · rw [encoded] at encoding
    obtain ⟨rfl, rfl⟩ := List.cons.inj encoding
    exact ⟨lo, hi, more, leads, follow.of_append⟩

/-- What is used up without giving a character is a maximal stretch that is none, where it takes in
all the bytes that can follow the leading one. -/
theorem subpart_of_none (read : readChar lead (used ++ rest) = (none, rest))
    (begun : used ≠ [] → Begun (lead :: used))
    (longest : ∀ lo hi more tail, Leads lead lo hi more → Follow lo hi tail →
      tail <+: used ++ rest → tail.length ≤ used.length) : Subpart (lead :: used) rest where
  nonempty := List.cons_ne_nil _ _
  malformed := by
    rintro c ⟨behind, encoding⟩
    have other : readChar lead (used ++ rest) = (some c, behind) := readChar_encoding encoding.symm
    rw [other] at read
    cases read
  begun := by
    by_cases alone : used = []
    · exact .inl (by rw [alone]; rfl)
    · exact .inr (begun alone)
  longest := by
    intro longer part begins
    cases longer with
    | nil => exact Nat.zero_le _
    | cons b tail =>
      obtain ⟨rfl, behind⟩ := List.cons_prefix_cons.1 part
      by_cases alone : tail = []
      · rw [alone]
        exact Nat.succ_le_succ (Nat.zero_le _)
      · obtain ⟨lo, hi, more, leads, follow⟩ := leads_of_begun begins alone
        exact Nat.succ_le_succ (longest lo hi more tail leads follow behind)

/-- Reading takes the encoding of a character off the front, or a maximal stretch that is none. -/
theorem readChar_cases (lead : UInt8) (bytes : List UInt8) :
    (∃ c rest, readChar lead bytes = (some c, rest) ∧
        lead :: bytes = String.utf8EncodeChar c ++ rest) ∨
      ∃ used rest, readChar lead bytes = (none, rest) ∧ lead :: bytes = used ++ rest ∧
        Subpart used rest := by
  by_cases ascii : lead < 0x80
  · refine .inl ⟨Char.ofNat lead.toNat, bytes, by rw [readChar, if_pos ascii], ?_⟩
    rw [UInt8.lt_iff_toNat_lt] at ascii
    rw [utf8EncodeChar_one ascii, UInt8.ofNat_toNat]
    rfl
  cases following : following? lead with
  | none =>
    have read : readChar lead bytes = (none, bytes) := by
      simp only [readChar, if_neg ascii, following]
    refine .inr ⟨[lead], bytes, read, rfl, subpart_of_none read (absurd rfl) ?_⟩
    intro lo hi more tail leads
    rw [following?_eq_some_iff.2 leads] at following
    cases following
  | some range =>
    obtain ⟨lo, hi, more⟩ := range
    have leads := following?_eq_some_iff.1 following
    obtain ⟨used, rest, rfl, follow, found⟩ :=
      readFollowing_cases lo hi (more + 1) (leadBits more lead) bytes
    obtain ⟨all, found⟩ | ⟨few, found, longest⟩ := found
    · refine .inl ⟨Char.ofNat (joined (leadBits more lead) used), rest, ?_, ?_⟩
      · rw [readChar_of_leads leads, found, Option.map_some]
      · rw [utf8EncodeChar_joined leads follow all]
        rfl
    · have read : readChar lead (used ++ rest) = (none, rest) := by
        rw [readChar_of_leads leads, found, Option.map_none]
      refine .inr ⟨lead :: used, rest, read, rfl, subpart_of_none read ?_ ?_⟩
      · exact fun alone => begun_of_follow leads follow alone few.le
      · intro lo' hi' more' tail leads' follow' part
        rw [following?_eq_some_iff.2 leads'] at following
        cases following
        exact longest tail part follow'

/-! ## All that is read -/

/-- Bytes are read character by character; each maximal stretch that is no character is read as
`none`. -/
inductive Reads : List UInt8 → List (Option Char) → Prop where
  | done : Reads [] []
  | char (c : Char) {bytes : List UInt8} {parts : List (Option Char)} (rest : Reads bytes parts) :
      Reads (String.utf8EncodeChar c ++ bytes) (some c :: parts)
  | gap {used bytes : List UInt8} {parts : List (Option Char)} (subpart : Subpart used bytes)
      (rest : Reads bytes parts) : Reads (used ++ bytes) (none :: parts)

theorem reads_decode (bytes : List UInt8) : Reads bytes (decode bytes) := by
  induction bytes using decode.induct with
  | case1 =>
    rw [decode]
    exact .done
  | case2 lead bytes ih =>
    rw [decode]
    obtain ⟨c, rest, read, encoding⟩ | ⟨used, rest, read, split, subpart⟩ := readChar_cases lead bytes
    · rw [read] at ih ⊢
      rw [encoding]
      exact .char c ih
    · rw [read] at ih ⊢
      rw [split]
      exact .gap subpart ih

/-- Two maximal stretches in front of the same bytes are equally long. -/
theorem Subpart.length_le {used' rest' : List UInt8} (subpart : Subpart used rest)
    (subpart' : Subpart used' rest') (same : used ++ rest = used' ++ rest') :
    used.length ≤ used'.length := by
  obtain single | begun := subpart.begun
  · rw [single]
    exact List.length_pos_iff.2 subpart'.nonempty
  · exact subpart'.longest used ⟨rest, same⟩ begun

/-- There is one way to read bytes. -/
theorem reads_iff {parts : List (Option Char)} : Reads bytes parts ↔ decode bytes = parts := by
  constructor
  · intro reads
    induction reads with
    | done => rw [decode]
    | @char c bytes parts rest ih =>
      obtain ⟨lead, tail, encoding⟩ := List.exists_cons_of_ne_nil (String.utf8EncodeChar_ne_nil (c := c))
      have read : readChar lead (tail ++ bytes) = (some c, bytes) :=
        readChar_encoding (by rw [encoding]; rfl)
      rw [encoding, List.cons_append, decode, read, ih]
    | @gap used bytes parts subpart rest ih =>
      obtain ⟨lead, tail, rfl⟩ := List.exists_cons_of_ne_nil subpart.nonempty
      rw [List.cons_append, decode]
      obtain ⟨c, rest, -, encoding⟩ | ⟨used, rest, read, split, subpart'⟩ :=
        readChar_cases lead (tail ++ bytes)
      · exact absurd ⟨rest, encoding.symm⟩ (subpart.malformed c)
      · have length := Nat.le_antisymm (subpart.length_le subpart' split)
          (subpart'.length_le subpart split.symm)
        obtain ⟨-, rfl⟩ := List.append_inj split length
        rw [read, ih]
  · rintro rfl
    exact reads_decode bytes

theorem decode_bytesOf (cs : List Char) : decode (bytesOf cs) = cs.map some := by
  have reads : Reads (bytesOf cs) (cs.map some) := by
    induction cs with
    | nil => exact .done
    | cons c cs ih => exact .char c ih
  exact reads_iff.1 reads

/-- The encoding of a text is read as that text. -/
theorem lossyText_bytesOf (cs : List Char) : lossyText (bytesOf cs) = String.ofList cs := by
  rw [lossyText, decode_bytesOf, List.map_map]
  congr
  exact List.map_id cs

theorem text?_bytesOf (cs : List Char) : text? (bytesOf cs) = some (String.ofList cs) := by
  have all : (cs.map some).mapM id = some cs := by
    induction cs with
    | nil => rfl
    | cons c cs ih => simp [ih]
  rw [text?, decode_bytesOf, all]
  rfl

/-- Bytes that are UTF-8 are those of the text that is read. -/
theorem toUTF8_lossyText (valid : bytes.toByteArray.IsValidUTF8) :
    (lossyText bytes).toUTF8 = bytes.toByteArray := by
  obtain ⟨cs, same⟩ := valid
  have encoded : bytes = bytesOf cs := by
    have := congrArg (·.data.toList) same
    simpa [List.utf8Encode, bytesOf] using this
  rw [encoded, lossyText_bytesOf]
  exact String.toByteArray_ofList

/-! ## ASCII characters -/

theorem wide_of_mem_utf8EncodeChar {b : UInt8} (wide : 0x80 ≤ c.toNat)
    (member : b ∈ String.utf8EncodeChar c) : 0x80 ≤ b.toNat := by
  by_contra ascii
  have code := eq_of_mem_utf8EncodeChar (by omega) member
  omega

/-- No byte of an ASCII character is replaced: such a byte is a character by itself, and stands in no
other. -/
theorem Subpart.wide {b : UInt8} (subpart : Subpart used rest) (member : b ∈ used) :
    0x80 ≤ b.toNat := by
  by_contra ascii
  replace ascii : b.toNat < 0x80 := by omega
  have encoded : String.utf8EncodeChar (Char.ofNat b.toNat) = [b] := by
    rw [utf8EncodeChar_one ascii, UInt8.ofNat_toNat]
  have alone : used = [b] := by
    obtain single | ⟨c, begins⟩ := subpart.begun
    · obtain ⟨d, rfl⟩ := List.length_eq_one_iff.1 single
      rw [List.mem_singleton.1 member]
    · have code := eq_of_mem_utf8EncodeChar ascii (begins.subset member)
      rw [← code, Char.ofNat_toNat] at encoded
      rw [encoded] at begins
      exact begins.eq_of_length_le (List.length_pos_iff.2 subpart.nonempty)
  apply subpart.malformed (Char.ofNat b.toNat)
  rw [encoded, alone]
  exact ⟨rest, rfl⟩

/-- The ASCII characters of a text stand as their bytes, and all else is other characters here and
other bytes there. -/
inductive SameAscii : List UInt8 → List Char → Prop where
  | done : SameAscii [] []
  | ascii {c : Char} {bytes : List UInt8} {cs : List Char} (ascii : c.toNat < 0x80)
      (rest : SameAscii bytes cs) : SameAscii (UInt8.ofNat c.toNat :: bytes) (c :: cs)
  | other {c : Char} {used bytes : List UInt8} {cs : List Char} (beyond : 0x80 ≤ c.toNat)
      (some : used ≠ []) (wide : ∀ b ∈ used, 0x80 ≤ b.toNat) (rest : SameAscii bytes cs) :
      SameAscii (used ++ bytes) (c :: cs)

theorem Reads.sameAscii {parts : List (Option Char)} (reads : Reads bytes parts) :
    SameAscii bytes (parts.map (·.getD replacement)) := by
  induction reads with
  | done => exact .done
  | @char c bytes parts rest ih =>
    by_cases ascii : c.toNat < 0x80
    · have encoded : String.utf8EncodeChar c = [UInt8.ofNat c.toNat] := by
        rw [← utf8EncodeChar_one ascii, Char.ofNat_toNat]
      rw [encoded]
      exact .ascii ascii ih
    · have beyond : 0x80 ≤ c.toNat := by omega
      exact .other beyond String.utf8EncodeChar_ne_nil
        (fun b member => wide_of_mem_utf8EncodeChar beyond member) ih
  | gap subpart rest ih =>
    exact .other (by decide) subpart.nonempty (fun b member => subpart.wide member) ih

theorem bytesOf_cons_of_ascii (ascii : c.toNat < 0x80) (cs : List Char) :
    bytesOf (c :: cs) = UInt8.ofNat c.toNat :: bytesOf cs := by
  rw [bytesOf_cons, ← Char.ofNat_toNat c, utf8EncodeChar_one ascii, Char.ofNat_toNat]
  rfl

variable {word cs : List Char}

/-- Such a text begins with an ASCII word exactly if the bytes do. -/
theorem SameAscii.begins_iff (same : SameAscii bytes cs) (ascii : ∀ c ∈ word, c.toNat < 0x80) :
    word <+: cs ↔ bytesOf word <+: bytes := by
  induction word generalizing bytes cs with
  | nil => simp [bytesOf_nil]
  | cons c word ih =>
    obtain ⟨first, others⟩ := List.forall_mem_cons.1 ascii
    have code : (UInt8.ofNat c.toNat).toNat = c.toNat := by rw [UInt8.toNat_ofNat']; omega
    rw [bytesOf_cons_of_ascii first]
    cases same with
    | done => simp
    | @ascii d bytes cs ascii rest =>
      have byte : UInt8.ofNat c.toNat = UInt8.ofNat d.toNat ↔ c = d := by
        rw [ofNat_eq_iff (by omega), UInt8.toNat_ofNat', Nat.mod_eq_of_lt (by omega), Char.toNat_inj]
      rw [List.cons_prefix_cons, List.cons_prefix_cons, byte, ih rest others]
    | @other d used bytes cs beyond some wide rest =>
      obtain ⟨b, used, rfl⟩ := List.exists_cons_of_ne_nil some
      have refused : c ≠ d := by rintro rfl; omega
      have refused' : UInt8.ofNat c.toNat ≠ b := by
        rintro rfl
        have := wide _ (List.mem_cons_self ..)
        omega
      simp [List.cons_prefix_cons, refused, refused']

/-- An ASCII word stands behind other bytes where it stands. -/
theorem part_of_wide_iff (ascii : ∀ c ∈ word, c.toNat < 0x80) (some : word ≠ [])
    (wide : ∀ b ∈ used, 0x80 ≤ b.toNat) :
    bytesOf word <:+: used ++ bytes ↔ bytesOf word <:+: bytes := by
  induction used with
  | nil => rfl
  | cons b used ih =>
    obtain ⟨first, others⟩ := List.forall_mem_cons.1 wide
    have refused : ¬bytesOf word <+: b :: (used ++ bytes) := by
      obtain ⟨c, word, rfl⟩ := List.exists_cons_of_ne_nil some
      have small := ascii c (List.mem_cons_self ..)
      rw [bytesOf_cons_of_ascii small, List.cons_prefix_cons, ofNat_eq_iff (by omega)]
      omega
    rw [List.cons_append, List.infix_cons_iff, or_iff_right refused, ih others]

/-- An ASCII word stands in such a text exactly if its bytes stand in a row. -/
theorem SameAscii.part_iff (same : SameAscii bytes cs) (ascii : ∀ c ∈ word, c.toNat < 0x80)
    (some : word ≠ []) : word <:+: cs ↔ bytesOf word <:+: bytes := by
  induction same with
  | done =>
    have none : bytesOf word ≠ [] := by
      simpa [bytesOf, List.flatMap_eq_nil_iff] using List.exists_mem_of_ne_nil word some
    rw [List.infix_nil, List.infix_nil, iff_false_left some]
    exact none
  | ascii one rest ih =>
    rw [List.infix_cons_iff, List.infix_cons_iff, ih, (SameAscii.ascii one rest).begins_iff ascii]
  | @other d used bytes cs beyond nonempty wide rest ih =>
    have refused : ¬word <+: d :: cs := by
      obtain ⟨c, word, rfl⟩ := List.exists_cons_of_ne_nil some
      have small := ascii c (List.mem_cons_self ..)
      rw [List.cons_prefix_cons]
      rintro ⟨rfl, -⟩
      omega
    rw [List.infix_cons_iff, or_iff_right refused, ih, part_of_wide_iff ascii some wide]

theorem part_lossyText_iff (ascii : ∀ c ∈ word, c.toNat < 0x80) (some : word ≠ []) :
    word <:+: (lossyText bytes).toList ↔ bytesOf word <:+: bytes := by
  rw [lossyText, String.toList_ofList]
  exact (reads_decode bytes).sameAscii.part_iff ascii some

end Patrol.Text
