import PageCheck.Proofs.Excerpts
import PageCheck.Text.Utf8

/-! Texts as bytes.  Decoding gives back what was encoded, and no character begins inside
another.  So where two texts agree on the bytes of a part of one of them, this part stands
in the other one too, at the same place. -/

set_option autoImplicit false

namespace PageCheck

namespace Utf8

/-! ### Characters -/

private theorem toNat_toUInt8 {code : Nat} (small : code < 0x100) :
    code.toUInt8.toNat = code := by
  simpa using small

private theorem codes (char : Char) :
    char.toNat < 0xD800 ∨ (0xE000 ≤ char.toNat ∧ char.toNat < 0x110000) := by
  have valid := char.valid
  unfold UInt32.isValidChar Nat.isValidChar at valid
  change char.toNat < 0xD800 ∨ (0xDFFF < char.toNat ∧ char.toNat < 0x110000) at valid
  omega

private theorem decodeFrom_more {pending : Pending} {byte : UInt8} {code : Nat}
    (value : byte.toNat = code) (least : pending.least ≤ code) (greatest : code ≤ pending.greatest)
    (owed : 1 < pending.owed) (rest : List UInt8) :
    decodeFrom (some pending) (byte :: rest) =
      decodeFrom (some ⟨pending.bits * 64 + (code - 0x80), pending.owed - 1, 0x80, 0xBF⟩) rest := by
  rw [decodeFrom]
  simp only [value]
  rw [if_pos ⟨least, greatest⟩, if_neg (by omega)]

private theorem decodeFrom_last {pending : Pending} {byte : UInt8} {code : Nat}
    (value : byte.toNat = code) (least : pending.least ≤ code) (greatest : code ≤ pending.greatest)
    (owed : pending.owed ≤ 1) (rest : List UInt8) :
    decodeFrom (some pending) (byte :: rest) =
      some (Char.ofNat (pending.bits * 64 + (code - 0x80))) :: decodeFrom none rest := by
  rw [decodeFrom]
  simp only [value]
  rw [if_pos ⟨least, greatest⟩, if_pos owed]

private theorem decodeFrom_begins {byte : UInt8} {pending : Pending}
    (begins : lead byte = .begins pending) (rest : List UInt8) :
    decodeFrom none (byte :: rest) = decodeFrom (some pending) rest := by
  rw [decodeFrom, begins]

private theorem exists_lead_three (code : Nat) (low : 0x800 ≤ code) (high : code < 0x10000)
    (valid : code < 0xD800 ∨ 0xE000 ≤ code) :
    ∃ least greatest, lead (0xE0 + code / 4096).toUInt8 =
        .begins ⟨code / 4096, 2, least, greatest⟩ ∧
      least ≤ 0x80 + code / 64 % 64 ∧ 0x80 + code / 64 % 64 ≤ greatest := by
  have first := toNat_toUInt8 (show 0xE0 + code / 4096 < 0x100 by omega)
  unfold lead
  simp only [first]
  rw [if_neg (by omega), if_neg (by omega), if_neg (by omega)]
  by_cases zero : code / 4096 = 0
  · rw [if_pos (by omega), zero]
    exact ⟨_, _, rfl, by omega, by omega⟩
  · rw [if_neg (by omega)]
    by_cases thirteen : code / 4096 = 0xD
    · rw [if_pos (by omega), thirteen]
      exact ⟨_, _, rfl, by omega, by omega⟩
    · rw [if_neg (by omega), if_pos (by omega), Nat.add_sub_cancel_left]
      exact ⟨_, _, rfl, by omega, by omega⟩

private theorem exists_lead_four (code : Nat) (low : 0x10000 ≤ code) (high : code < 0x110000) :
    ∃ least greatest, lead (0xF0 + code / 262144).toUInt8 =
        .begins ⟨code / 262144, 3, least, greatest⟩ ∧
      least ≤ 0x80 + code / 4096 % 64 ∧ 0x80 + code / 4096 % 64 ≤ greatest := by
  have first := toNat_toUInt8 (show 0xF0 + code / 262144 < 0x100 by omega)
  unfold lead
  simp only [first]
  rw [if_neg (by omega), if_neg (by omega), if_neg (by omega), if_neg (by omega),
    if_neg (by omega), if_neg (by omega)]
  by_cases zero : code / 262144 = 0
  · rw [if_pos (by omega), zero]
    exact ⟨_, _, rfl, by omega, by omega⟩
  · rw [if_neg (by omega)]
    by_cases four : code / 262144 = 4
    · rw [if_neg (by omega), if_pos (by omega), four]
      exact ⟨_, _, rfl, by omega, by omega⟩
    · rw [if_pos (by omega), Nat.add_sub_cancel_left]
      exact ⟨_, _, rfl, by omega, by omega⟩

theorem decodeFrom_encodeChar (char : Char) (rest : List UInt8) :
    decodeFrom none (encodeChar char ++ rest) = some char :: decodeFrom none rest := by
  have valid := codes char
  have continued {bits : Nat} (small : bits < 64) : (0x80 + bits).toUInt8.toNat = 0x80 + bits :=
    toNat_toUInt8 (by omega)
  have last := continued (Nat.mod_lt char.toNat (by decide : 0 < 64))
  have second := continued (Nat.mod_lt (char.toNat / 64) (by decide : 0 < 64))
  have third := continued (Nat.mod_lt (char.toNat / 4096) (by decide : 0 < 64))
  have whole {bits : Nat} (sum : bits = char.toNat) : Char.ofNat bits = char := by
    rw [sum, Char.ofNat_toNat]
  unfold encodeChar
  simp only
  split
  · rename_i one
    have first := toNat_toUInt8 (show char.toNat < 0x100 by omega)
    rw [List.singleton_append, decodeFrom, lead]
    simp only [first]
    rw [if_pos one, whole rfl]
  · split
    · have first := toNat_toUInt8 (show 0xC0 + char.toNat / 64 < 0x100 by omega)
      have begins : lead (0xC0 + char.toNat / 64).toUInt8 =
          .begins ⟨char.toNat / 64, 1, 0x80, 0xBF⟩ := by
        unfold lead
        simp only [first]
        rw [if_neg (by omega), if_neg (by omega), if_pos (by omega), Nat.add_sub_cancel_left]
      rw [List.cons_append, List.singleton_append, decodeFrom_begins begins,
        decodeFrom_last last (Nat.le_add_right _ _) (by simp only; omega) (Nat.le_refl _),
        whole (by simp only; omega)]
    · split
      · obtain ⟨least, greatest, begins, above, below⟩ :=
          exists_lead_three char.toNat (by omega) (by omega) (by omega)
        rw [List.cons_append, List.cons_append, List.singleton_append, decodeFrom_begins begins,
          decodeFrom_more second above below (by simp only; omega),
          decodeFrom_last last (Nat.le_add_right _ _) (by simp only; omega) (Nat.le_refl _),
          whole (by simp only; omega)]
      · obtain ⟨least, greatest, begins, above, below⟩ :=
          exists_lead_four char.toNat (by omega) (by omega)
        rw [List.cons_append, List.cons_append, List.cons_append, List.singleton_append,
          decodeFrom_begins begins, decodeFrom_more third above below (by simp only; omega),
          decodeFrom_more second (Nat.le_add_right _ _) (by simp only; omega)
            (by simp only; omega),
          decodeFrom_last last (Nat.le_add_right _ _) (by simp only; omega) (Nat.le_refl _),
          whole (by simp only; omega)]

/-- The byte goes on with a character that began before it. -/
def Continues (byte : UInt8) : Prop :=
  0x80 ≤ byte.toNat ∧ byte.toNat < 0xC0

private theorem continues_toUInt8 (bits : Nat) : Continues (0x80 + bits % 64).toUInt8 := by
  unfold Continues
  rw [toNat_toUInt8 (by omega)]
  omega

private theorem not_continues_toUInt8 {code : Nat} (small : code < 0x100)
    (outside : code < 0x80 ∨ 0xC0 ≤ code) : ¬ Continues code.toUInt8 := by
  unfold Continues
  rw [toNat_toUInt8 small]
  omega

private theorem utf8Size_eq (char : Char) :
    char.utf8Size =
      if char.toNat < 0x80 then 1 else if char.toNat < 0x800 then 2
      else if char.toNat < 0x10000 then 3 else 4 := by
  unfold Char.utf8Size
  simp only [UInt32.le_iff_toNat_le]
  change (if char.toNat ≤ 0x7F then 1 else if char.toNat ≤ 0x7FF then 2
    else if char.toNat ≤ 0xFFFF then 3 else 4) = _
  repeat' split
  all_goals omega

/-- The first byte of a character begins it, and the others go on with it. -/
theorem exists_encodeChar (char : Char) :
    ∃ first more, encodeChar char = first :: more ∧ ¬ Continues first ∧
      (∀ byte ∈ more, Continues byte) ∧ (first :: more).length = char.utf8Size := by
  have valid := codes char
  rw [utf8Size_eq]
  unfold encodeChar
  simp only
  split
  · rename_i one
    exact ⟨_, [], rfl, not_continues_toUInt8 (by omega) (Or.inl one), List.forall_mem_nil _, rfl⟩
  · split
    · exact ⟨_, [_], rfl, not_continues_toUInt8 (by omega) (by omega),
        by simp only [List.forall_mem_singleton, continues_toUInt8], rfl⟩
    · split
      · refine ⟨_, [_, _], rfl, not_continues_toUInt8 (by omega) (by omega), ?_, rfl⟩
        exact List.forall_mem_cons.mpr
          ⟨continues_toUInt8 _, List.forall_mem_singleton.mpr (continues_toUInt8 _)⟩
      · refine ⟨_, [_, _, _], rfl, not_continues_toUInt8 (by omega) (by omega), ?_, rfl⟩
        exact List.forall_mem_cons.mpr ⟨continues_toUInt8 _, List.forall_mem_cons.mpr
          ⟨continues_toUInt8 _, List.forall_mem_singleton.mpr (continues_toUInt8 _)⟩⟩

/-! ### Texts -/

theorem encode_cons (char : Char) (rest : List Char) :
    encode (char :: rest) = encodeChar char ++ encode rest :=
  List.flatMap_cons

theorem encode_append (left right : List Char) :
    encode (left ++ right) = encode left ++ encode right :=
  List.flatMap_append

theorem length_encode (text : List Char) : (encode text).length = Text.byteLength text := by
  induction text with
  | nil => rfl
  | cons char rest ih =>
      obtain ⟨first, more, bytes, -, -, size⟩ := exists_encodeChar char
      rw [encode_cons, List.length_append, ih, bytes, size, Text.byteLength]

/-- A text that was encoded is read again, whatever follows. -/
theorem decodeFrom_encode (text : List Char) (rest : List UInt8) :
    decodeFrom none (encode text ++ rest) = text.map some ++ decodeFrom none rest := by
  induction text with
  | nil => rfl
  | cons char text ih =>
      rw [encode_cons, List.append_assoc, decodeFrom_encodeChar, ih]
      rfl

/-- Bytes that begin as a text does are those of a text that begins so. -/
theorem exists_of_encode_eq {text part : List Char} {rest : List UInt8}
    (bytes : encode text = encode part ++ rest) : ∃ after, text = part ++ after := by
  have decoded := congrArg (decodeFrom none) bytes
  have whole := decodeFrom_encode text []
  rw [List.append_nil] at whole
  rw [whole, decodeFrom_encode] at decoded
  have begins : part.map some <+: text.map some := by
    refine ⟨decodeFrom none rest, ?_⟩
    rw [← decoded]
    exact List.append_nil _
  obtain ⟨after, textEq⟩ :=
    (List.prefix_map_iff_of_injective fun _ _ => Option.some.inj).mp begins
  exact ⟨after, textEq.symm⟩

/-- Where a byte does not go on with a character, a text can be cut. -/
theorem exists_cut {text : List Char} {offset : Nat} {byte : UInt8} {behind : List UInt8}
    (bytes : (encode text).drop offset = byte :: behind) (begins : ¬ Continues byte) :
    ∃ before after, text = before ++ after ∧ Text.byteLength before = offset ∧
      encode after = byte :: behind := by
  induction text generalizing offset with
  | nil =>
      rw [encode, List.flatMap_nil, List.drop_nil] at bytes
      cases bytes
  | cons char rest ih =>
      obtain ⟨first, more, charEq, -, continues, size⟩ := exists_encodeChar char
      by_cases within : offset < char.utf8Size
      · cases offset with
        | zero => exact ⟨[], char :: rest, rfl, rfl, bytes⟩
        | succ inside =>
            -- The cut would fall into the first character, whose other bytes go on with it.
            rw [encode_cons, charEq, List.cons_append, List.drop_succ_cons] at bytes
            rw [← size, List.length_cons] at within
            rw [List.drop_append_of_le_length (by omega)] at bytes
            obtain ⟨next, others, dropped⟩ := List.exists_cons_of_ne_nil
              (fun none => by have := List.drop_eq_nil_iff.mp none; omega :
                more.drop inside ≠ [])
            rw [dropped, List.cons_append] at bytes
            obtain ⟨rfl, -⟩ := List.cons.inj bytes
            have member : next ∈ more.drop inside := by
              rw [dropped]
              exact List.mem_cons_self
            exact absurd (continues next (List.mem_of_mem_drop member)) begins
      · rw [encode_cons, charEq, List.drop_append, size,
          List.drop_eq_nil_of_le (by omega), List.nil_append] at bytes
        obtain ⟨before, after, rfl, lengthEq, afterEq⟩ := ih bytes
        exact ⟨char :: before, after, rfl, by rw [Text.byteLength, lengthEq]; omega, afterEq⟩

def AgreeOn (span : Span) (first second : List Char) : Prop :=
  ((encode first).drop span.start).take span.length =
    ((encode second).drop span.start).take span.length

instance (span : Span) (first second : List Char) : Decidable (AgreeOn span first second) := by
  unfold AgreeOn
  infer_instance

theorem AgreeOn.symm {span : Span} {first second : List Char} (agree : AgreeOn span first second) :
    AgreeOn span second first :=
  Eq.symm agree

theorem AgreeOn.exists_part {second before part after : List Char} (filled : part ≠ [])
    (agree : AgreeOn ⟨Text.byteLength before, Text.byteLength before + Text.byteLength part⟩
      (before ++ (part ++ after)) second) :
    ∃ left right, second = left ++ (part ++ right) ∧
      Text.byteLength left = Text.byteLength before := by
  have bytes : ((encode second).drop (Text.byteLength before)).take (Text.byteLength part) =
      encode part := by
    have same := agree.symm
    unfold AgreeOn Span.length at same
    simp only [Nat.add_sub_cancel_left] at same
    rw [same, encode_append, encode_append, ← length_encode before, List.drop_left,
      ← length_encode part, List.take_left]
  obtain ⟨char, rest, rfl⟩ := List.exists_cons_of_ne_nil filled
  obtain ⟨first, more, charEq, begins, -, -⟩ := exists_encodeChar char
  have split : (encode second).drop (Text.byteLength before) = encode (char :: rest) ++
      ((encode second).drop (Text.byteLength before)).drop (Text.byteLength (char :: rest)) := by
    rw [← bytes, List.take_append_drop]
  have head := split
  rw [encode_cons, charEq, List.cons_append, List.cons_append] at head
  obtain ⟨left, following, rfl, lengthEq, followingEq⟩ := exists_cut head begins
  rw [← head, split] at followingEq
  obtain ⟨right, rfl⟩ := exists_of_encode_eq followingEq
  exact ⟨left, right, rfl, lengthEq⟩

end Utf8

end PageCheck
