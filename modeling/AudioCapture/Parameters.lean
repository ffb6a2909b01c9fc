import AudioCapture.Stream

/-!
# Parameters

The settings of a device by key, each key once, in the order in which the keys were first set.

* `get?_set`: a setting answers with the value it was last given, and others are left alone.
-/

namespace AudioCapture

structure Parameters where
  entries : List ParameterValue := []
  deriving DecidableEq, Repr, Inhabited

namespace Parameters

def put (key value : String) : List ParameterValue → List ParameterValue
  | [] => [⟨key, value⟩]
  | entry :: rest =>
      if entry.key = key then ⟨key, value⟩ :: rest else entry :: put key value rest

def set (parameters : Parameters) (key value : String) : Parameters :=
  ⟨put key value parameters.entries⟩

def get? (parameters : Parameters) (key : String) : Option String :=
  (parameters.entries.find? fun entry => entry.key = key).map ParameterValue.value

def ofList (entries : List ParameterValue) : Parameters :=
  entries.foldl (fun parameters entry => parameters.set entry.key entry.value) {}

theorem find?_put (key value other : String) (entries : List ParameterValue) :
    ((put key value entries).find? fun entry => entry.key = other).map ParameterValue.value =
      if key = other then some value
      else (entries.find? fun entry => entry.key = other).map ParameterValue.value := by
  induction entries with
  | nil => by_cases same : key = other <;> simp [put, same]
  | cons entry rest ih =>
    by_cases hit : entry.key = key
    · by_cases same : key = other <;> simp [put, hit, same]
    · rw [put, if_neg hit]
      by_cases found : entry.key = other
      · have differ : key ≠ other := fun same => hit (found.trans same.symm)
        simp [found, differ]
      · simp [found, ih]

theorem get?_set (parameters : Parameters) (key value other : String) :
    (parameters.set key value).get? other =
      if key = other then some value else parameters.get? other :=
  find?_put key value other parameters.entries

end Parameters

end AudioCapture
