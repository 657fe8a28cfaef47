import WideColumn.Counter
import WideColumn.Meta.Entity
import WideColumn.Row

/-!
# Entities

How the library reaches into the values of a program. `E` is the type that holds the entities of
all classes of a program; an `EntityType` says how one class of them is read and written, and which
interceptors watch it.
-/

namespace WideColumn

/-- A moment in the life of an entity at which interceptors may run. -/
inductive Event where
  | prePersist
  | postPersist
  | preUpdate
  | postUpdate
  | preRemove
  | postRemove
  | postLoad
deriving Repr, DecidableEq

/-- Every event. -/
def Event.every : List Event :=
  [.prePersist, .postPersist, .preUpdate, .postUpdate, .preRemove, .postRemove, .postLoad]

/-- A callback on entities of one type. -/
structure Interceptor (E : Type) where
  name : String
  /-- The type of entity that the callback takes. -/
  target : String
  events : List Event
  /-- The entity afterwards, and the error if the callback failed. -/
  run : E → Event → E × Option Error

/-- Whether an interceptor wants to see an event. -/
def Interceptor.accepts {E : Type} (i : Interceptor E) (event : Event) : Bool :=
  i.events.contains event

/-- One class of entities of a program. -/
structure EntityType (E : Type) where
  /-- The full name, which identifies the type. -/
  typeName : String
  /-- The last part of the name. -/
  shortName : String
  entityMeta : Except Error EntityMeta
  interceptors : List (Interceptor E)
  /-- The mapped values besides the key and the counters, by property name. -/
  values : E → List (String × Value)
  /-- Write one attribute. -/
  write : E → String → Value → Except Error E
  /-- The components of the key, in declared order. -/
  key : E → List Value
  /-- An entity that has only its key. -/
  ofKey : List Value → Except Error E
  ofRow : Row → Except Error E
  /-- The cell of a counter. -/
  counter? : E → String → Option Counter
  setCounter : E → String → Counter → E

/-- A call of an interceptor: the key of the entity at that moment, before the callback. -/
structure Notice where
  interceptor : String
  event : Event
  key : List Value

namespace EntityType

variable {E : Type}

/-- The value of an attribute. -/
def value? (T : EntityType E) (entity : E) (property : String) : Option Value :=
  (T.values entity).lookup property

/-- Whether an interceptor wants to see the event. -/
def hasInterceptor (T : EntityType E) (event : Event) : Bool :=
  T.interceptors.any fun i => i.accepts event

/-- Run interceptors in order on an entity of the given type, until one fails. One that was made
for another type of entity fails without running. -/
def runInterceptors (T : EntityType E) (actual : String) (event : Event) :
    List (Interceptor E) → E → List Notice × E × Option Error
  | [], entity => ([], entity, none)
  | i :: rest, entity =>
    if i.target != actual then
      ([], entity,
        some (.invalidState s!"interceptor for '{i.target}' invoked with another entity type"))
    else
      let notice : Notice := ⟨i.name, event, T.key entity⟩
      match i.run entity event with
      | (entity, some e) => ([notice], entity, some e)
      | (entity, none) =>
        let (notices, entity, e) := runInterceptors T actual event rest entity
        (notice :: notices, entity, e)

/-- Run the interceptors of the class that want to see the event on an entity of type `actual`. -/
def interceptAs (T : EntityType E) (actual : String) (entity : E) (event : Event) :
    List Notice × E × Option Error :=
  T.runInterceptors actual event (T.interceptors.filter fun i => i.accepts event) entity

/-- Run the interceptors of the class that want to see the event. -/
def intercept (T : EntityType E) (entity : E) (event : Event) :
    List Notice × E × Option Error :=
  T.interceptAs T.typeName entity event

end EntityType

end WideColumn
