import FitzGo.Connection.NotifyFrame

/-!
# Length-prefixed readers

`ReadString` and `ReadBytes` of response.go compute their bounds in `int`, whose
width is a parameter here; `none` is a panic. The multiplexer's `readU32Bytes`
compares before it converts, so that its model needs no width.
-/

namespace FitzGo.Connection.Readers

/-- Wrap to an `int` of `width` bits. -/
def int (width : Nat) (value : Int) : Int :=
  value.bmod (2 ^ width)

/-- The slice `payload[low:high]`. -/
def slice (payload : Bytes) (low high : Int) : Option Bytes :=
  if 0 ≤ low ∧ low ≤ high ∧ high ≤ payload.length then
    some ((payload.take high.toNat).drop low.toNat)
  else none

def readU32BE (width : Nat) (payload : Bytes) (offset : Int) : Option (Except Int (Nat × Int)) :=
  if int width (offset + 4) > payload.length then some (.error offset)
  else
    (slice payload offset payload.length).bind fun rest =>
      -- `binary.BigEndian.Uint32` needs four bytes.
      (slice rest 0 4).map fun field => .ok (BigEndian.decode field, int width (offset + 4))

def readBytes (width : Nat) (payload : Bytes) (offset : Int) : Option (Except Int (Bytes × Int)) :=
  (readU32BE width payload offset).bind fun
    | .error offset => some (.error offset)
    | .ok (length, offset) =>
      let stop := int width (offset + int width length)
      if stop > payload.length then some (.error offset)
      else (slice payload offset stop).map fun data => .ok (data, stop)

/-- The body of `ReadBytes`; the string has the bytes of the slice. -/
def readString : Nat → Bytes → Int → Option (Except Int (Bytes × Int)) :=
  readBytes

/-- It returns, with what `readU32Bytes` returns. -/
def Agrees (payload : Bytes) (offset : Nat) (read : Option (Except Int (Bytes × Int))) : Prop :=
  read.map Except.toOption = some ((readU32Bytes payload offset).map (Prod.map id Nat.cast))

variable {width offset : Nat} {payload : Bytes}

theorem slice_eq {low high : Nat} (ordered : low ≤ high) (within : high ≤ payload.length) :
    slice payload low high = some ((payload.take high).drop low) := by
  rw [slice, if_pos (by omega), Int.toNat_natCast, Int.toNat_natCast]

theorem int_eq (bits : width = 32 ∨ width = 64) {value : Int} (nonneg : 0 ≤ value)
    (fits : value < (2 ^ (width - 1) : Nat)) : int width value = value := by
  rcases bits with rfl | rfl
  · exact Int.bmod_eq_of_le (by omega) (by omega)
  · exact Int.bmod_eq_of_le (by omega) (by omega)

/-- The bounds that the readers compute are an `int`: the end of the length, and
that of the announced data if the length is there. -/
def Fits (width : Nat) (payload : Bytes) (offset : Nat) : Prop :=
  offset + 4 < 2 ^ (width - 1) ∧ (offset + 4 ≤ payload.length →
    offset + 4 + announced payload offset < 2 ^ (width - 1))

theorem readU32BE_of_short (bits : width = 32 ∨ width = 64) (fits : offset + 4 < 2 ^ (width - 1))
    (short : payload.length < offset + 4) :
    readU32BE width payload offset = some (.error offset) := by
  have start : int width (offset + 4) = (offset + 4 : Nat) := int_eq bits (by omega) (by omega)
  rw [readU32BE, start, if_pos (by omega)]

theorem readU32BE_of_long (bits : width = 32 ∨ width = 64) (fits : offset + 4 < 2 ^ (width - 1))
    (long : offset + 4 ≤ payload.length) : readU32BE width payload offset =
      some (.ok (announced payload offset, (offset + 4 : Nat))) := by
  have start : int width (offset + 4) = (offset + 4 : Nat) := int_eq bits (by omega) (by omega)
  have field : slice (payload.drop offset) (0 : Nat) (4 : Nat) =
      some ((payload.drop offset).take 4) :=
    slice_eq (by decide) (by rw [List.length_drop]; omega)
  rw [readU32BE, start, if_neg (by omega), slice_eq (by omega) le_rfl, List.take_length]
  exact congrArg (Option.map _) field

theorem readBytes_agrees (bits : width = 32 ∨ width = 64) (fits : Fits width payload offset) :
    Agrees payload offset (readBytes width payload offset) := by
  obtain ⟨starts, ends⟩ := fits
  rw [Agrees, readBytes, readU32Bytes]
  by_cases short : payload.length < offset + 4
  · rw [readU32BE_of_short bits starts short, if_pos short]
    rfl
  · have header := readU32BE_of_long bits starts (Nat.not_lt.mp short)
    have within := ends (Nat.not_lt.mp short)
    have length : int width (announced payload offset) = announced payload offset :=
      int_eq bits (by omega) (by omega)
    have stop : int width ((offset + 4 : Nat) + announced payload offset) =
        (offset + 4 + announced payload offset : Nat) :=
      int_eq bits (by omega) (by omega)
    simp only [header, Option.bind_some, length, stop, if_neg short]
    rw [← announced]
    by_cases tooLong : payload.length < offset + 4 + announced payload offset
    · rw [if_pos (by omega), if_pos tooLong]
      rfl
    · rw [if_neg (by omega), if_neg tooLong, slice_eq (by omega) (by omega), List.drop_take,
        Nat.add_sub_cancel_left]
      rfl

/-! ## Panics -/

theorem announced_lt (payload : Bytes) (offset : Nat) : announced payload offset < 2 ^ 32 := by
  have bound := BigEndian.decode_lt ((payload.drop offset).take 4)
  have four : ((payload.drop offset).take 4).length ≤ 4 := List.length_take_le ..
  exact bound.trans_le (Nat.pow_le_pow_right (by decide) four)

/-- Past the last `int` a bound is too small, and so passes its check. -/
private theorem int_eq_sub (bits : width = 32 ∨ width = 64) {value : Int}
    (past : (2 ^ (width - 1) : Nat) ≤ value) (few : value < (2 ^ (width - 1) + 2 ^ width : Nat)) :
    int width value = value - (2 ^ width : Nat) := by
  rcases bits with rfl | rfl
  · rw [int, Int.bmod_def]
    omega
  · rw [int, Int.bmod_def]
    omega

private theorem slice_eq_none {low high : Int} (disordered : high < low) :
    slice payload low high = none := by
  rw [slice, if_neg (by omega)]

private theorem readBytes_panics (bits : width = 32 ∨ width = 64) (inside : offset ≤ payload.length)
    (sized : payload.length < 2 ^ (width - 1)) (unfit : ¬ Fits width payload offset) :
    readBytes width payload offset = none := by
  have double : 2 ^ width = 2 ^ (width - 1) + 2 ^ (width - 1) ∧ 2 ^ 32 ≤ 2 ^ width := by
    rcases bits with rfl | rfl <;> decide
  by_cases starts : offset + 4 < 2 ^ (width - 1)
  · -- the end of the data lies before its start
    simp only [Fits, starts, true_and, Classical.not_imp, Nat.not_lt] at unfit
    obtain ⟨long, past⟩ := unfit
    have bound := announced_lt payload offset
    have stop : int width ((offset + 4 : Nat) + int width (announced payload offset)) =
        (offset + 4 : Nat) + announced payload offset - (2 ^ width : Nat) := by
      rw [int, int, Int.add_bmod_bmod]
      exact int_eq_sub bits (by omega) (by omega)
    rw [readBytes, readU32BE_of_long bits starts long]
    simp only [Option.bind_some, stop]
    rw [if_neg (by omega), slice_eq_none (by omega)]
    rfl
  · -- the length is read where fewer than four bytes are left
    have start : int width (offset + 4) = offset + 4 - (2 ^ width : Nat) :=
      int_eq_sub bits (by omega) (by omega)
    have few : slice (payload.drop offset) 0 4 = none := by
      rw [slice, List.length_drop, if_neg (by omega)]
    rw [readBytes, readU32BE, start, if_neg (by omega), slice_eq inside le_rfl, List.take_length,
      Option.bind_some, few]
    rfl

/-- The readers return, and exactly the data that lies within the payload, just
if the bounds that they compute are an `int`. Go has no longer slices. -/
theorem length_prefixed_readers_agree {width offset : Nat} {payload : Bytes}
    (bits : width = 32 ∨ width = 64) (inside : offset ≤ payload.length)
    (sized : payload.length < 2 ^ (width - 1)) :
    ((Agrees payload offset (readString width payload offset) ∧
      Agrees payload offset (readBytes width payload offset)) ↔ Fits width payload offset) ∧
      ∀ data next, readU32Bytes payload offset = some (data, next) ↔
        Holds payload offset data next := by
  refine ⟨⟨fun both => ?_, fun fits => ?_⟩, fun _ _ => readU32Bytes_eq_some_iff⟩
  · by_contra unfit
    have agrees := both.2
    rw [Agrees, readBytes_panics bits inside sized unfit] at agrees
    cases agrees
  · exact ⟨readBytes_agrees bits fits, readBytes_agrees bits fits⟩

theorem readers_agree_on_a_byte : Agrees [0, 0, 0, 1, 7] 0 (readString 32 [0, 0, 0, 1, 7] 0) := by
  have fits : Fits 32 [0, 0, 0, 1, 7] 0 := ⟨by decide, fun _ => by decide⟩
  exact ((length_prefixed_readers_agree (Or.inl rfl) (by decide) (by decide)).1.mpr fits).1

/-- As a 32-bit `int` a length of `2 ^ 31` is negative and passes the check. -/
theorem readers_panic :
    readString 32 [128, 0, 0, 0] 0 = none ∧ readBytes 32 [128, 0, 0, 0] 0 = none ∧
      readU32Bytes [128, 0, 0, 0] 0 = none := by
  decide +kernel

end FitzGo.Connection.Readers
