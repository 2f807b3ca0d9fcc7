import SessionGateway.Json.Record
import SessionGateway.Text.Blank
import SessionGateway.Text.Lowercase

/-! The extension points of the gateway, and sets of them. -/

namespace SessionGateway

inductive Capability where
  | audit
  | validator
  | extend
  | auth
  | dataEvent
deriving DecidableEq

namespace Capability

def all : List Capability := [audit, validator, extend, auth, dataEvent]

theorem mem_all (c : Capability) : c ∈ all := by cases c <;> decide

def label : Capability → String
  | audit => "audit"
  | validator => "validator"
  | extend => "extend"
  | auth => "auth"
  | dataEvent => "data_event"

/-- The symbol that a module exports for the capability. -/
def entrySymbol (c : Capability) : String :=
  s!"restgate_{c.label}_entry"

def parse (s : String) : Except String Capability :=
  let word := Text.lowercase (Text.trim s)
  if word = "dataevent" then .ok dataEvent
  else
    match all.find? (·.label = word) with
    | some c => .ok c
    | none => .error s!"Unknown capability: {word}"

def toJson (c : Capability) : Json := .str c.label

def ofJson? (v : Json) : Option Capability :=
  v.label?.bind fun name => all.find? (·.label = name)

end Capability

structure CapabilitySet where
  audit : Bool := false
  validator : Bool := false
  extend : Bool := false
  auth : Bool := false
  dataEvent : Bool := false
deriving DecidableEq

namespace CapabilitySet

def contains (s : CapabilitySet) : Capability → Bool
  | .audit => s.audit
  | .validator => s.validator
  | .extend => s.extend
  | .auth => s.auth
  | .dataEvent => s.dataEvent

def insert (s : CapabilitySet) : Capability → CapabilitySet
  | .audit => { s with audit := true }
  | .validator => { s with validator := true }
  | .extend => { s with extend := true }
  | .auth => { s with auth := true }
  | .dataEvent => { s with dataEvent := true }

@[simp] theorem contains_insert (s : CapabilitySet) (c d : Capability) :
    (s.insert c).contains d = (c == d || s.contains d) := by
  cases c <;> cases d <;> rfl

def ofList (cs : List Capability) : CapabilitySet :=
  cs.foldl insert {}

def toList (s : CapabilitySet) : List Capability :=
  Capability.all.filter s.contains

@[simp] theorem mem_toList (s : CapabilitySet) (c : Capability) :
    c ∈ s.toList ↔ s.contains c = true := by
  simp [toList, Capability.mem_all]

def diff (s t : CapabilitySet) : CapabilitySet :=
  ofList (s.toList.filter (!t.contains ·))

end CapabilitySet

end SessionGateway
