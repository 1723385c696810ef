import CommandBot.Command
import CommandBot.Files

/-!
What commands act on: the store of values, the attached listeners and the files.
-/

namespace CommandBot

/-- Values under keys. A key that is set stays. -/
abbrev Store := Table String

/-- Storing the value would change what stands under the key. A key without a value differs from
every value, the empty one included. -/
def Store.changes (store : Store) (key value : String) : Bool :=
  store.get? key != some value

/-- The state that commands read and change. Listeners stand in the order in which they were
attached, at most one for each place in the document. -/
structure World where
  store : Store
  listeners : List Listener
  files : Files

namespace World

/-- A listener written at this place is attached. -/
def isAttached (world : World) (place : Place) : Bool :=
  world.listeners.any (·.place == place)

/-- Stores a value. -/
def set (world : World) (key value : String) : World :=
  { world with store := world.store.insert key value }

/-- Attaches a listener behind the others. -/
def attach (world : World) (listener : Listener) : World :=
  { world with listeners := world.listeners ++ [listener] }

end World

end CommandBot
