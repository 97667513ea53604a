import Gatherlink.Lib.BigEndian

/-! Sequences of records that carry a type byte, a 16-bit length and a value. -/

namespace Gatherlink.Lib.Tlv
open Lib.BigEndian

abbrev Record := UInt8 × Bytes

def pack (record : Record) : Bytes := record.1 :: (toBe 2 record.2.length ++ record.2)

def packAll (records : List Record) : Bytes := records.flatMap pack

variable {σ ε : Type}

/-- Read `count` records from `cursor` on and hand each to `step`; the cursor behind the last one is kept. -/
def walk (short : ε) (step : σ → UInt8 → Bytes → Except ε σ) (input : Bytes) : Nat → Nat → σ → Except ε (Nat × σ)
  | 0, cursor, state => .ok (cursor, state)
  | count + 1, cursor, state =>
      if input.length < cursor + 3 then .error short
      else
        let size := readBe 2 input (cursor + 1)
        if input.length < cursor + 3 + size then .error short
        else do
          let next ← step state (input.getD cursor 0) ((input.drop (cursor + 3)).take size)
          walk short step input count (cursor + 3 + size) next

@[simp] theorem pack_length (record : Record) : (pack record).length = 3 + record.2.length := by
  simp [pack]
  omega

@[simp] theorem packAll_cons (record : Record) (records : List Record) :
    packAll (record :: records) = pack record ++ packAll records := rfl

theorem packAll_length_ge (records : List Record) : 3 * records.length ≤ (packAll records).length := by
  induction records with
  | nil => simp
  | cons record rest ih =>
    simp
    omega

theorem packAll_length_mem {records : List Record} {record : Record} (member : record ∈ records) :
    record.2.length ≤ (packAll records).length := by
  induction member with
  | head rest =>
    simp
    omega
  | tail first _ ih =>
    simp
    omega

theorem walk_packAll (short : ε) (step : σ → UInt8 → Bytes → Except ε σ) (before : Bytes) (records : List Record)
    (small : ∀ record ∈ records, record.2.length < 65536) (state : σ) :
    walk short step (before ++ packAll records) records.length before.length state =
      (records.foldlM (fun state record => step state record.1 record.2) state).map
        fun final => ((before ++ packAll records).length, final) := by
  induction records generalizing before state with
  | nil => simp [walk, packAll, Except.map, pure, Except.pure]
  | cons record rest ih =>
    obtain ⟨kind, value⟩ := record
    have fits : value.length < 256 ^ 2 := small _ List.mem_cons_self
    have whole : before ++ packAll ((kind, value) :: rest) =
        before ++ [kind] ++ toBe 2 value.length ++ (value ++ packAll rest) := by
      simp [packAll, pack]
    have total : (before ++ packAll ((kind, value) :: rest)).length =
        before.length + 3 + value.length + (packAll rest).length := by
      simp
      omega
    have first : (before ++ packAll ((kind, value) :: rest)).getD before.length 0 = kind := by
      simp [pack]
    have size : readBe 2 (before ++ packAll ((kind, value) :: rest)) (before.length + 1) = value.length := by
      rw [whole, readBe_append 2 (before ++ [kind]) _ _ _ (by simp) (toBe_length ..), fromBe_toBe_of_lt 2 _ fits]
    have body : ((before ++ packAll ((kind, value) :: rest)).drop (before.length + 3)).take value.length = value := by
      have position : before.length + 3 = (before ++ [kind] ++ toBe 2 value.length).length := by simp
      rw [whole, position, List.drop_left, List.take_left]
    have regroup : before ++ pack (kind, value) ++ packAll rest = before ++ packAll ((kind, value) :: rest) := by
      simp
    have cursor : (before ++ pack (kind, value)).length = before.length + 3 + value.length := by
      simp
      omega
    have later := ih (before ++ pack (kind, value)) fun record member => small record (List.mem_cons_of_mem _ member)
    rw [regroup, cursor] at later
    rw [List.length_cons, walk, if_neg (by omega)]
    simp only [size, body, first]
    rw [if_neg (by omega), List.foldlM_cons]
    cases stepped : step state kind value with
    | error error => rfl
    | ok next => exact later next

end Gatherlink.Lib.Tlv
