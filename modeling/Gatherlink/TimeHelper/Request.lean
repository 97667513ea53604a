import Gatherlink.Lib.Text

/-! Requests to the privileged time helper: lines of `key=value`, and the answer it renders. -/

namespace Gatherlink.TimeHelper
open Lib.Text

def DEFAULT_MAX_STEP_US : Int64 := 500000

structure TimeCorrectionRequest where
  targetUnixUs : Int64
  source : String
  quality : String
  maxStepUs : Int64
  apply : Bool
  deriving DecidableEq, Repr

inductive TimeCorrectionStatus where
  | preview
  | applied
  | refused
  | error
  deriving DecidableEq, Repr

structure TimeCorrectionResponse where
  status : TimeCorrectionStatus
  applied : Bool
  offsetUs : Int64
  targetUnixUs : Int64
  systemUnixUs : Int64
  warning : Option String
  deriving DecidableEq, Repr

section Text

def parseI64 (key value : List Char) : Except String Int64 :=
  match parseSigned value with
  | some number =>
      if -2 ^ 63 ≤ number ∧ number < 2 ^ 63 then .ok (Int64.ofInt number)
      else .error (String.ofList key ++ " must be an integer")
  | none => .error (String.ofList key ++ " must be an integer")

def parseBool (key value : List Char) : Except String Bool :=
  if value = "true".toList then .ok true
  else if value = "false".toList then .ok false
  else .error (String.ofList key ++ " must be true or false")

end Text

namespace TimeCorrectionRequest

/-- What the lines read so far have set. -/
structure Fields where
  targetUnixUs : Option Int64 := none
  source : Option String := none
  quality : Option String := none
  maxStepUs : Int64 := DEFAULT_MAX_STEP_US
  apply : Bool := false

def readLine (fields : Fields) (rawLine : List Char) : Except String Fields :=
  let line := trim rawLine
  if line.isEmpty then .ok fields
  else
    match splitOnce line with
    | none => .error ("invalid request line: " ++ String.ofList line)
    | some (key, value) =>
        if key = "target_unix_us".toList then do
          let target ← parseI64 key value
          .ok { fields with targetUnixUs := some target }
        else if key = "source".toList then .ok { fields with source := some (String.ofList value) }
        else if key = "quality".toList then .ok { fields with quality := some (String.ofList value) }
        else if key = "max_step_us".toList then do
          let maxStep ← parseI64 key value
          .ok { fields with maxStepUs := maxStep }
        else if key = "apply".toList then do
          let apply ← parseBool key value
          .ok { fields with apply := apply }
        else .error ("unknown request field: " ++ String.ofList key)

def parse (input : String) : Except String TimeCorrectionRequest := do
  let fields ← (lines input.toList).foldlM readLine {}
  if fields.maxStepUs ≤ 0 then throw "max_step_us must be positive"
  match fields.targetUnixUs with
  | none => throw "target_unix_us is required"
  | some target =>
      pure ⟨target, fields.source.getD "unknown", fields.quality.getD "unknown", fields.maxStepUs, fields.apply⟩

end TimeCorrectionRequest

def TimeCorrectionStatus.render : TimeCorrectionStatus → String
  | .preview => "preview"
  | .applied => "applied"
  | .refused => "refused"
  | .error => "error"

def TimeCorrectionResponse.render (response : TimeCorrectionResponse) : String :=
  "status=" ++ response.status.render ++ "\napplied=" ++ toString response.applied ++
    "\noffset_us=" ++ toString response.offsetUs ++ "\ntarget_unix_us=" ++ toString response.targetUnixUs ++
    "\nsystem_unix_us=" ++ toString response.systemUnixUs ++ "\n" ++
    (match response.warning with
      | some warning => "warning=" ++ warning ++ "\n"
      | none => "")

end Gatherlink.TimeHelper
