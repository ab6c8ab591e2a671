import Flowmeter.Handoff
import Flowmeter.Names.Lookup
import Flowmeter.OrderedMap

/-! Names that are looked up in the background.

Asking for a name never waits: an address that is asked for the first time is
answered with its written form and queued. A worker takes the queued addresses, looks
them up one by one and stores their names. -/
namespace Flowmeter

/-- The names so far, the queue, and what the worker is doing. -/
structure Resolver where
  names : OrderedMap Address String := .empty
  pending : Handoff Address := {}
  /-- Addresses the worker took and has not looked up yet. -/
  batch : List Address := []
  /-- A name that is looked up and not stored yet. -/
  found : Option (Address × String) := none
  /-- All calls of the lookup, oldest first. -/
  calls : List Address := []

namespace Resolver

/-- The name of an address as far as it is known. -/
def resolve (resolver : Resolver) (address : Address) : String × Resolver :=
  match resolver.names.find? address with
  | some name => (name, resolver)
  | none =>
    (address.text,
      { resolver with
        names := resolver.names.insert address address.text
        pending := resolver.pending.push address })

/-- The names of addresses asked for one after the other. -/
def resolveAll (resolver : Resolver) : List Address → List String × Resolver
  | [] => ([], resolver)
  | address :: rest =>
    let (name, resolver) := resolver.resolve address
    let (names, resolver) := resolveAll resolver rest
    (name :: names, resolver)

/-! ### The worker -/

/-- Takes all queued addresses. -/
def take (resolver : Resolver) : Resolver :=
  let (batch, pending) := resolver.pending.drain
  { resolver with batch := resolver.batch ++ batch, pending }

/-- Looks the next address up. -/
def lookUp (lookup : Lookup) (resolver : Resolver) : Resolver :=
  match resolver.batch with
  | [] => resolver
  | address :: batch =>
    let (name, calls) := lookup.withRetry resolver.calls address
    { resolver with batch, calls, found := some (address, name) }

/-- Stores the name that was looked up. -/
def store (resolver : Resolver) : Resolver :=
  match resolver.found with
  | none => resolver
  | some (address, name) =>
    { resolver with names := resolver.names.insert address name, found := none }

/-- Looks up and stores `count` addresses, one after the other. -/
def work (lookup : Lookup) : Nat → Resolver → Resolver
  | 0, resolver => resolver
  | count + 1, resolver => work lookup count (store (lookUp lookup resolver))

/-- The worker leaves; what it took and has not looked up is lost. -/
def leave (resolver : Resolver) : Resolver := { resolver with batch := [] }

/-- The worker takes the queued addresses and is stopped while it looks up the one numbered
`last`, or the last one. -/
def settle (lookup : Lookup) (last : Option Nat) (resolver : Resolver) : Resolver :=
  let taken := resolver.take
  let count := taken.batch.length
  leave (work lookup (min count ((last.map (· + 1)).getD count)) taken)

/-- What looking up and storing `count` addresses notes. -/
def workNotes (lookup : Lookup) : Nat → Resolver → List Note
  | 0, _ => []
  | count + 1, resolver =>
    (match resolver.batch with
      | [] => []
      | address :: _ => lookup.retryNotes resolver.calls address) ++
      workNotes lookup count (store (lookUp lookup resolver))

/-- What `settle` notes. -/
def settleNotes (lookup : Lookup) (last : Option Nat) (resolver : Resolver) : List Note :=
  let taken := resolver.take
  let count := taken.batch.length
  workNotes lookup (min count ((last.map (· + 1)).getD count)) taken

end Resolver

end Flowmeter
