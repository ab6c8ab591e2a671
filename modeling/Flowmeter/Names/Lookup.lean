import Flowmeter.Diagnostics
import Flowmeter.EventLog.Event

/-! Looking up what an address is called.

A lookup may fail and may answer differently each time, so its answer depends on the
calls made before. A failed lookup is tried once more; after that, and for an empty
name, the address goes by its written form. -/
namespace Flowmeter

/-- The answer to a call for an address, given the calls before it, oldest first. -/
abbrev Lookup := List Address → Address → Option String

namespace Lookup

/-- The lookup that gives an address its answers one after the other, and then none. -/
def ofAnswers (answers : Address → List (Option String)) : Lookup := fun calls address =>
  ((answers address)[calls.count address]?).join

/-- The name that an answer gives an address. -/
def nameOf (address : Address) (answer : Option String) : String :=
  match answer with
  | some name => if name.isEmpty then address.text else name
  | none => address.text

/-- Looks an address up, a second time after a failure: its name, and all calls so far. -/
def withRetry (lookup : Lookup) (calls : List Address) (address : Address) :
    String × List Address :=
  let again := calls ++ [address]
  match lookup calls address with
  | some name => (nameOf address (some name), again)
  | none => (nameOf address (lookup again address), again ++ [address])

/-- What looking an address up notes. -/
def retryNotes (lookup : Lookup) (calls : List Address) (address : Address) : List Note :=
  match lookup calls address with
  | some _ => []
  | none =>
    [⟨.debug, "Reverse lookup of " ++ address.text ++ " failed (EAI_AGAIN), retrying"⟩]

end Lookup

end Flowmeter
