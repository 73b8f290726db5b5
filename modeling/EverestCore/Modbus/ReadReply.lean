import EverestCore.Data.Memory
import EverestCore.Machine.Loops
import EverestCore.Modbus.Basic

/-! The loop that reads a reply from the serial port. It has no counter of its own: it ends by
what `select` reports, or when the buffer is full. -/
namespace EverestCore.Modbus
open Machine

/-- What `select` reports, and what `read` gives if it is called then: nothing if it fails, and
no bytes if it returns zero. -/
inductive SelectOutcome where
  | error
  | timeout
  | readable (result : Option (List UInt8))
  deriving DecidableEq

/-- The outcomes, call by call. -/
abbrev Port := ℕ → SelectOutcome

/-- The bytes that arrive at a call. -/
def SelectOutcome.bytes : SelectOutcome → List UInt8
  | .readable (some bytes) => bytes
  | _ => []

/-- The variables of `TinyModbusRTU::read_reply`, and the calls of `select` so far. -/
structure Reading where
  rxbuf : Memory UInt8
  bytesReadTotal : ℕ
  calls : ℕ

namespace Reading

def start : Reading := ⟨.empty, 0, 0⟩

/-- `read` with the space that is left in the buffer. -/
def read (bytes : List UInt8) (rxbufLen : ℕ) (r : Reading) : Reading :=
  let bytesRead := bytes.take (rxbufLen - r.bytesReadTotal)
  { r with
    rxbuf := r.rxbuf.storeAll r.bytesReadTotal bytesRead
    bytesReadTotal := r.bytesReadTotal + bytesRead.length }

/-- One round of the loop. -/
def round (port : Port) (rxbufLen : ℕ) (r : Reading) : Next Reading :=
  let next := { r with calls := r.calls + 1 }
  match port r.calls with
  | .error => .leave next
  | .timeout => .leave next
  | .readable result =>
      if r.bytesReadTotal ≥ rxbufLen then .leave next
      else
        match result with
        | none => .again next
        | some bytes => .again (next.read bytes rxbufLen)

/-- Where the loop is after a number of rounds. -/
def after (port : Port) (rxbufLen : ℕ) : ℕ → Reading → Reading
  | 0, r => r
  | rounds + 1, r =>
      match r.round port rxbufLen with
      | .leave final => final
      | .again next => after port rxbufLen rounds next

end Reading

/-- `TinyModbusRTU::read_reply`, followed for a number of rounds. -/
def readReply? (port : Port) (rxbufLen fuel : ℕ) : Option Reading :=
  loop? (fun r => some (r.round port rxbufLen)) fuel .start

/-- The bytes that arrive in front of a call. -/
def arrived (port : Port) : ℕ → List UInt8
  | 0 => []
  | calls + 1 => arrived port calls ++ (port calls).bytes

/-- The line is idle or broken, so that `select` does not report that there is more to read. -/
def SelectOutcome.IsOver (outcome : SelectOutcome) : Prop := outcome = .error ∨ outcome = .timeout

namespace Reading

/-- The buffer holds what has arrived, as far as it goes. -/
structure Holds (port : Port) (rxbufLen : ℕ) (r : Reading) : Prop where
  rxbuf : r.rxbuf.Begins ((arrived port r.calls).take rxbufLen)
  total : r.bytesReadTotal = ((arrived port r.calls).take rxbufLen).length
  written : r.rxbuf.WrittenBelow rxbufLen

variable {port : Port} {rxbufLen : ℕ} {r : Reading}

theorem holds_start : start.Holds port rxbufLen := by
  refine ⟨?_, ?_, Memory.writtenBelow_empty rxbufLen⟩
  · rw [start, arrived, List.take_nil]
    exact Memory.begins_nil _
  · rw [start, arrived, List.take_nil, List.length_nil]

theorem Holds.read (h : r.Holds port rxbufLen) (hRoom : r.bytesReadTotal < rxbufLen)
    {bytes : List UInt8} (hBytes : (port r.calls).bytes = bytes) :
    ({ r with calls := r.calls + 1 }.read bytes rxbufLen).Holds port rxbufLen := by
  have hShort : (arrived port r.calls).length < rxbufLen := by
    have hTotal := h.total
    rw [List.length_take] at hTotal
    omega
  have hWhole : (arrived port r.calls).take rxbufLen = arrived port r.calls :=
    List.take_of_length_le hShort.le
  have hTotal : r.bytesReadTotal = (arrived port r.calls).length := by rw [h.total, hWhole]
  have hBuffer := h.rxbuf
  rw [hWhole] at hBuffer
  have hNext : (arrived port (r.calls + 1)).take rxbufLen =
      arrived port r.calls ++ bytes.take (rxbufLen - r.bytesReadTotal) := by
    rw [arrived, hBytes, List.take_append, hWhole, hTotal]
  refine ⟨?_, ?_, ?_⟩
  · rw [Reading.read]
    dsimp only
    rw [hNext, hTotal]
    exact hBuffer.storeAll _
  · rw [Reading.read]
    dsimp only
    rw [hNext, List.length_append, hTotal]
  · refine h.written.storeAll ?_
    dsimp only
    rw [List.length_take]
    omega

/-- A call that brings nothing, or nothing for which there is room. -/
theorem Holds.skip (h : r.Holds port rxbufLen)
    (hSkip : (port r.calls).bytes = [] ∨ rxbufLen ≤ r.bytesReadTotal) :
    Holds port rxbufLen { r with calls := r.calls + 1 } := by
  have hSame : (arrived port (r.calls + 1)).take rxbufLen =
      (arrived port r.calls).take rxbufLen := by
    rcases hSkip with hNone | hFull
    · rw [arrived, hNone, List.append_nil]
    · have hTotal := h.total
      rw [List.length_take] at hTotal
      rw [arrived, List.take_append_of_le_length (by omega)]
  refine ⟨?_, ?_, h.written⟩
  · dsimp only
    rw [hSame]
    exact h.rxbuf
  · dsimp only
    rw [hSame]
    exact h.total

/-- What a round does, whether it leaves the loop or not. -/
theorem Holds.round (h : r.Holds port rxbufLen) :
    (∃ final, r.round port rxbufLen = .leave final ∧ final.Holds port rxbufLen ∧
      final.calls = r.calls + 1 ∧ ((port r.calls).IsOver ∨ rxbufLen ≤ r.bytesReadTotal)) ∨
    ∃ next, r.round port rxbufLen = .again next ∧ next.Holds port rxbufLen ∧
      next.calls = r.calls + 1 ∧ ¬((port r.calls).IsOver ∨ rxbufLen ≤ r.bytesReadTotal) := by
  unfold Reading.round
  cases hOutcome : port r.calls with
  | error =>
      exact .inl ⟨_, rfl, h.skip (.inl (by rw [hOutcome]; rfl)), rfl, .inl (.inl rfl)⟩
  | timeout =>
      exact .inl ⟨_, rfl, h.skip (.inl (by rw [hOutcome]; rfl)), rfl, .inl (.inr rfl)⟩
  | readable result =>
      by_cases hFull : rxbufLen ≤ r.bytesReadTotal
      · exact .inl ⟨_, if_pos hFull, h.skip (.inr hFull), rfl, .inr hFull⟩
      · have hGoesOn : ¬((SelectOutcome.readable result).IsOver ∨ rxbufLen ≤ r.bytesReadTotal) := by
          simp [SelectOutcome.IsOver, hFull]
        refine .inr ?_
        dsimp only
        rw [if_neg hFull]
        cases result with
        | none =>
            exact ⟨_, rfl, h.skip (.inl (by rw [hOutcome]; rfl)), rfl, hGoesOn⟩
        | some bytes =>
            exact ⟨_, rfl, h.read (Nat.lt_of_not_le hFull) (by rw [hOutcome]; rfl), rfl, hGoesOn⟩

theorem Holds.after (h : r.Holds port rxbufLen) (rounds : ℕ) :
    (r.after port rxbufLen rounds).Holds port rxbufLen := by
  induction rounds generalizing r with
  | zero => exact h
  | succ rounds ih =>
      rw [Reading.after]
      rcases h.round with ⟨final, hLeave, hFinal, _⟩ | ⟨next, hAgain, hNext, _⟩
      · rw [hLeave]
        exact hFinal
      · rw [hAgain]
        exact ih hNext

/-- The round that leaves the loop is the one at a call where the line is over or the buffer
full. -/
theorem Holds.full_iff (h : r.Holds port rxbufLen) :
    rxbufLen ≤ r.bytesReadTotal ↔ rxbufLen ≤ (arrived port r.calls).length := by
  rw [h.total, List.length_take]
  omega

end Reading

open Reading

/-- The loop ends at a call, if not before. It ends where the line is over or the buffer full. -/
theorem readReply?_ends {port : Port} {rxbufLen last : ℕ}
    (hLast : (port last).IsOver ∨ rxbufLen ≤ (arrived port last).length) {fuel : ℕ}
    (hFuel : last < fuel) :
    ∃ final, readReply? port rxbufLen fuel = some final ∧ final.Holds port rxbufLen ∧
      ∃ call ≤ last, final.calls = call + 1 ∧
        ((port call).IsOver ∨ rxbufLen ≤ (arrived port call).length) := by
  have hStart : start.Holds port rxbufLen ∧ start.calls + last = last :=
    ⟨holds_start, Nat.zero_add last⟩
  refine loop?_ends (fun rank (r : Reading) => r.Holds port rxbufLen ∧ r.calls + rank = last)
    (fun final : Reading => final.Holds port rxbufLen ∧ ∃ call ≤ last, final.calls = call + 1 ∧
      ((port call).IsOver ∨ rxbufLen ≤ (arrived port call).length)) ?_ hStart hFuel
  rintro rank r ⟨hHolds, hRank⟩
  rcases hHolds.round with ⟨final, hLeave, hFinal, hCalls, hOver⟩ |
    ⟨next, hAgain, hNext, hCalls, hOn⟩
  · rw [hHolds.full_iff] at hOver
    exact .inl ⟨final, congrArg some hLeave, hFinal, r.calls, by omega, hCalls, hOver⟩
  · have hBefore : r.calls ≠ last := by
      intro hSame
      rw [hHolds.full_iff, hSame] at hOn
      exact hOn hLast
    exact .inr ⟨next, congrArg some hAgain, rank - 1, by omega, hNext, by omega⟩

theorem readReply?_stuck {port : Port} {rxbufLen : ℕ}
    (hNever : ∀ call, ¬((port call).IsOver ∨ rxbufLen ≤ (arrived port call).length)) (fuel : ℕ) :
    readReply? port rxbufLen fuel = none := by
  apply loop?_stuck (fun r => r.Holds port rxbufLen) _ fuel holds_start
  intro r hHolds
  rcases hHolds.round with ⟨final, _, _, _, hOver⟩ | ⟨next, hAgain, hNext, _⟩
  · rw [hHolds.full_iff] at hOver
    exact absurd hOver (hNever r.calls)
  · exact .inr ⟨next, congrArg some hAgain, hNext⟩

/-- The loop keeps to its buffer. It ends exactly if `select` fails or times out at some call,
or if the bytes that arrive fill the buffer. -/
theorem readReply_ends_iff (port : Port) (rxbufLen : ℕ) :
    ((∃ fuel final, readReply? port rxbufLen fuel = some final) ∧
      ∀ rounds, (start.after port rxbufLen rounds).rxbuf.WrittenBelow rxbufLen) ↔
      ∃ call, (port call).IsOver ∨ rxbufLen ≤ (arrived port call).length := by
  constructor
  · rintro ⟨⟨fuel, final, hFinal⟩, _⟩
    by_contra hNever
    rw [readReply?_stuck (not_exists.mp hNever)] at hFinal
    simp at hFinal
  · rintro ⟨last, hLast⟩
    obtain ⟨final, hFinal, _⟩ := readReply?_ends hLast (Nat.lt_succ_self last)
    exact ⟨⟨_, final, hFinal⟩, fun rounds => (holds_start.after rounds).written⟩

/-- A device that has been unplugged: `select` reports it as readable, and `read` fails. -/
def unplugged : Port := fun _ => .readable none

theorem readReply_unplugged :
    ¬∀ port : Port, (∃ last, ∀ call, last ≤ call → (port call).bytes = []) →
      ∃ fuel final, readReply? port modbusMaxReplySize fuel = some final := by
  intro hAll
  obtain ⟨fuel, final, hFinal⟩ := hAll unplugged ⟨0, fun _ _ => rfl⟩
  have hNothing : ∀ call, arrived unplugged call = [] := by
    intro call
    induction call with
    | zero => rfl
    | succ call ih =>
        rw [arrived, ih]
        rfl
  rw [readReply?_stuck] at hFinal
  · simp at hFinal
  · intro call
    rw [hNothing]
    simp [SelectOutcome.IsOver, unplugged, modbusMaxReplySize]

end EverestCore.Modbus
