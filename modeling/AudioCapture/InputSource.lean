import AudioCapture.Failure
import AudioCapture.Text.Blank
import AudioCapture.Text.Integer
import AudioCapture.Text.Quoted

/-!
# Input sources

What a device is capturing for. The device reports it as the decimal text of a number, which may
stand between blanks.

* `number_ofNumber`: a number is recovered from the source that stands for it.
-/

namespace AudioCapture

inductive InputSource where
  | default
  | mic
  | voiceUplink
  | voiceDownlink
  | voiceCall
  | camcorder
  | voiceRecognition
  | voiceCommunication
  | remoteSubmix
  | unprocessed
  | other (number : Int32)
  deriving DecidableEq, Repr

namespace InputSource

/-- The device parameter that holds the number of the source. -/
def parameterKey : String := "input_source"

def ofNumber (number : Int32) : InputSource :=
  if number = 0 then default
  else if number = 1 then mic
  else if number = 2 then voiceUplink
  else if number = 3 then voiceDownlink
  else if number = 4 then voiceCall
  else if number = 5 then camcorder
  else if number = 6 then voiceRecognition
  else if number = 7 then voiceCommunication
  else if number = 8 then remoteSubmix
  else if number = 9 then unprocessed
  else other number

def number : InputSource → Int32
  | default => 0
  | mic => 1
  | voiceUplink => 2
  | voiceDownlink => 3
  | voiceCall => 4
  | camcorder => 5
  | voiceRecognition => 6
  | voiceCommunication => 7
  | remoteSubmix => 8
  | unprocessed => 9
  | other number => number

theorem number_ofNumber (n : Int32) : (ofNumber n).number = n := by
  unfold ofNumber
  repeat' split
  all_goals simp_all [number]

/-- The source that a reported text stands for. -/
def ofText (raw : String) : Except Failure InputSource :=
  match Text.integer (-2147483648) 2147483647 (Text.trim raw.toList) with
  | .ok value => .ok (ofNumber (.ofInt value))
  | .error reason =>
      .error (.invalidArguments
        s!"bad input source {Text.quoted raw}: {reason.message}")

end InputSource

end AudioCapture
