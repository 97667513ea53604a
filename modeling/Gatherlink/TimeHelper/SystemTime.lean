import Gatherlink.TimeHelper.Request

/-! The step check in front of the system clock. Subtraction and absolute value are 64-bit: a build with
overflow checks stops where they do not fit, a build without goes on with the wrapped value. -/

namespace Gatherlink.TimeHelper

/-- How a build treats results that do not fit 64 bits. -/
inductive Arithmetic where
  | checked
  | wrapping
  deriving DecidableEq

namespace Arithmetic

/-- The difference, or nothing where the build panics. -/
def sub : Arithmetic → Int64 → Int64 → Option Int64
  | .wrapping, left, right => some (left - right)
  | .checked, left, right =>
      if -2 ^ 63 ≤ left.toInt - right.toInt ∧ left.toInt - right.toInt < 2 ^ 63 then some (left - right) else none

def abs : Arithmetic → Int64 → Option Int64
  | .wrapping, value => some (if value < 0 then -value else value)
  | .checked, value => if value = Int64.minValue then none else some (if value < 0 then -value else value)

end Arithmetic

/-- One reading of the system clock, and its answer to being set; both may fail with a text. -/
structure SystemClock where
  nowUnixUs : Except String Int64
  setUnixUs : Int64 → Except String Unit

/-- The calls of `set_unix_us`, and the response; a panic leaves none. -/
structure Handled where
  calls : List Int64
  response : Option TimeCorrectionResponse

def handleRequest (arithmetic : Arithmetic) (clock : SystemClock) (request : TimeCorrectionRequest) : Handled :=
  match clock.nowUnixUs with
  | .error error =>
      ⟨[], some ⟨.error, false, 0, request.targetUnixUs, 0, some ("failed to read system time: " ++ error)⟩⟩
  | .ok system =>
      match arithmetic.sub request.targetUnixUs system with
      | none => ⟨[], none⟩
      | some offset =>
          match arithmetic.abs offset with
          | none => ⟨[], none⟩
          | some distance =>
              if request.maxStepUs < distance then
                ⟨[], some ⟨.refused, false, offset, request.targetUnixUs, system,
                  some ("requested correction exceeds max_step_us: " ++ toString distance ++ " > " ++
                    toString request.maxStepUs)⟩⟩
              else if !request.apply then
                ⟨[], some ⟨.preview, false, offset, request.targetUnixUs, system,
                  some "preview only; resend with apply=true to set system time"⟩⟩
              else
                match clock.setUnixUs request.targetUnixUs with
                | .ok () =>
                    ⟨[request.targetUnixUs], some ⟨.applied, true, offset, request.targetUnixUs, system, none⟩⟩
                | .error error =>
                    ⟨[request.targetUnixUs], some ⟨.error, false, offset, request.targetUnixUs, system,
                      some ("failed to set system time: " ++ error)⟩⟩

/-- The calls a request leads to, and the text that is written back. -/
def handleStream (arithmetic : Arithmetic) (clock : SystemClock) (body : String) : List Int64 × Option String :=
  match TimeCorrectionRequest.parse body with
  | .ok request =>
      let handled := handleRequest arithmetic clock request
      (handled.calls, handled.response.map TimeCorrectionResponse.render)
  | .error error => ([], some (TimeCorrectionResponse.render ⟨.error, false, 0, 0, 0, some error⟩))

section Safety

/-- The clock is set only to the approved target, only within the step, and the helper answers. -/
def Safe (arithmetic : Arithmetic) (clock : SystemClock) (body : String) : Prop :=
  (handleStream arithmetic clock body).2.isSome = true ∧
    ∀ value ∈ (handleStream arithmetic clock body).1, ∃ request system,
      TimeCorrectionRequest.parse body = .ok request ∧ clock.nowUnixUs = .ok system ∧ request.apply = true ∧
        value = request.targetUnixUs ∧ |value.toInt - system.toInt| ≤ request.maxStepUs.toInt

variable (arithmetic : Arithmetic) {left right value : Int64}

theorem toInt_sub_of_fits (low : -2 ^ 63 ≤ left.toInt - right.toInt) (high : left.toInt - right.toInt < 2 ^ 63) :
    (left - right).toInt = left.toInt - right.toInt := by
  rw [Int64.toInt_sub, Int.bmod_eq_of_le_mul_two] <;> omega

theorem toInt_abs_of_fits (above : -2 ^ 63 < value.toInt) :
    (if value < 0 then -value else value).toInt = |value.toInt| := by
  by_cases negative : value < 0
  · have below : value.toInt < 0 := Int64.lt_iff_toInt_lt.mp negative
    rw [if_pos negative, abs_of_neg below, Int64.toInt_neg, Int.bmod_eq_of_le_mul_two] <;> omega
  · have above : 0 ≤ value.toInt := Int.not_lt.mp fun less => negative (Int64.lt_iff_toInt_lt.mpr less)
    rw [if_neg negative, abs_of_nonneg above]

theorem sub_abs_of_fits (low : -2 ^ 63 < left.toInt - right.toInt) (high : left.toInt - right.toInt < 2 ^ 63) :
    ∃ offset distance, arithmetic.sub left right = some offset ∧ arithmetic.abs offset = some distance ∧
      distance.toInt = |left.toInt - right.toInt| := by
  have exact := toInt_sub_of_fits low.le high
  have inside : (left - right) ≠ Int64.minValue := by
    intro lowest
    rw [lowest] at exact
    have least : Int64.minValue.toInt = -2 ^ 63 := by decide
    omega
  refine ⟨left - right, if left - right < 0 then -(left - right) else left - right, ?_, ?_, ?_⟩
  · cases arithmetic
    · exact if_pos ⟨low.le, high⟩
    · rfl
  · cases arithmetic
    · exact if_neg inside
    · rfl
  · rw [toInt_abs_of_fits (by omega), exact]

/-- A build with overflow checks panics on every other difference. -/
theorem sub_abs_of_overflow (far : ¬(-2 ^ 63 < left.toInt - right.toInt ∧ left.toInt - right.toInt < 2 ^ 63)) :
    (Arithmetic.checked.sub left right).bind Arithmetic.checked.abs = none := by
  by_cases fits : -2 ^ 63 ≤ left.toInt - right.toInt ∧ left.toInt - right.toInt < 2 ^ 63
  · have lowest : left - right = Int64.minValue := by
      apply Int64.toInt_inj.mp
      rw [toInt_sub_of_fits fits.1 fits.2]
      have least : Int64.minValue.toInt = -2 ^ 63 := by decide
      omega
    simp [Arithmetic.sub, lowest, Arithmetic.abs]
  · simp only [Arithmetic.sub, if_neg fits, Option.bind_none]

variable {clock : SystemClock} {request : TimeCorrectionRequest} {system : Int64}

theorem handleRequest_of_fits (read : clock.nowUnixUs = .ok system)
    (low : -2 ^ 63 < request.targetUnixUs.toInt - system.toInt)
    (high : request.targetUnixUs.toInt - system.toInt < 2 ^ 63) :
    (handleRequest arithmetic clock request).response.isSome = true ∧
      ∀ value ∈ (handleRequest arithmetic clock request).calls, request.apply = true ∧
        value = request.targetUnixUs ∧ |value.toInt - system.toInt| ≤ request.maxStepUs.toInt := by
  obtain ⟨offset, distance, difference, absolute, exact⟩ := sub_abs_of_fits arithmetic low high
  simp only [handleRequest, read, difference, absolute]
  by_cases far : request.maxStepUs < distance
  · simp [far]
  have near : |request.targetUnixUs.toInt - system.toInt| ≤ request.maxStepUs.toInt := by
    rw [← exact]
    exact Int.not_lt.mp fun less => far (Int64.lt_iff_toInt_lt.mpr less)
  cases approved : request.apply with
  | false => simp [far]
  | true => cases clock.setUnixUs request.targetUnixUs <;> simp [far, near]

theorem handleRequest_of_overflow (read : clock.nowUnixUs = .ok system)
    (far : ¬(-2 ^ 63 < request.targetUnixUs.toInt - system.toInt ∧
      request.targetUnixUs.toInt - system.toInt < 2 ^ 63)) :
    (handleRequest .checked clock request).response = none := by
  have panics := sub_abs_of_overflow far
  simp only [handleRequest, read]
  cases difference : Arithmetic.checked.sub request.targetUnixUs system with
  | none => rfl
  | some offset =>
    rw [difference, Option.bind_some] at panics
    simp only [panics]

/-- The helper is safe in both builds exactly if the correction, with its sign, fits 64 bits both ways. -/
theorem safe_iff (clock : SystemClock) (body : String) :
    (∀ arithmetic, Safe arithmetic clock body) ↔ ∀ request system,
      TimeCorrectionRequest.parse body = .ok request → clock.nowUnixUs = .ok system →
        -2 ^ 63 < request.targetUnixUs.toInt - system.toInt ∧ request.targetUnixUs.toInt - system.toInt < 2 ^ 63 := by
  constructor
  · intro safe request system parsed read
    by_contra far
    have answered := (safe .checked).1
    simp [handleStream, parsed, handleRequest_of_overflow read far] at answered
  · intro fits arithmetic
    cases parsed : TimeCorrectionRequest.parse body with
    | error error => simp [Safe, handleStream, parsed]
    | ok request =>
      cases read : clock.nowUnixUs with
      | error error => simp [Safe, handleStream, parsed, handleRequest, read]
      | ok system =>
        obtain ⟨low, high⟩ := fits request system parsed read
        obtain ⟨answers, sets⟩ := handleRequest_of_fits arithmetic read low high
        refine ⟨by simpa [handleStream, parsed] using answers, fun value called => ?_⟩
        rw [handleStream, parsed] at called
        exact ⟨request, system, parsed, read, sets value called⟩

/-- A target just after the lowest 64-bit time, with the clock at one microsecond. -/
def farRequest : String := "target_unix_us=-9223372036854775807\napply=true\n"

def obedientClock (system : Int64) : SystemClock := ⟨.ok system, fun _ => .ok ()⟩

/-- Without overflow checks the clock is set half the 64-bit range away; with them the helper panics. -/
theorem far_request_unsafe :
    (handleStream .wrapping (obedientClock 1) farRequest).1 = [-9223372036854775807] ∧
      (handleStream .checked (obedientClock 1) farRequest).2 = none ∧
      ¬∀ arithmetic, Safe arithmetic (obedientClock 1) farRequest := by
  have panics : (handleStream .checked (obedientClock 1) farRequest).2 = none := by decide
  refine ⟨by decide, panics, fun safe => ?_⟩
  have answered := (safe .checked).1
  rw [panics] at answered
  contradiction

end Safety

end Gatherlink.TimeHelper
