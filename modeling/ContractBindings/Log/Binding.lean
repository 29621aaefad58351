import ContractBindings.Log.Entry
import ContractBindings.TypeScript.Binding

/-!
# What interfaces and bindings tell

A sorted interface is worth a line with the size of each group. An event that the map of a binding
leaves out is worth a warning, and the binding itself a line.
-/

namespace ContractBindings.Log

/-- The entry about a sorted interface. -/
def ofInterface (i : Abi.Interface) : Entry :=
  .classified i.functions.length i.events.length i.constructor.isSome i.others.length

/-- The entries about the making of a binding. -/
def ofBinding (s : TypeScript.Subject) : List Entry :=
  (TypeScript.repeatedEvents s.interface.events).map (fun e => Entry.repeatedEvent e.name) ++
    [.generated s.contract s.interface.functions.length s.interface.events.length]

end ContractBindings.Log
