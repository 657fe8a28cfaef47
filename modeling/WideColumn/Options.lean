import WideColumn.Level

/-!
# Options of a call

What a single operation may ask for: a level, a time to live, a write timestamp.
-/

namespace WideColumn

/-- What one call may ask for. An absent field leaves the choice to the configuration. -/
structure Options where
  level : Option Level
  /-- Time to live in seconds. -/
  ttl : Option UInt32
  /-- Write timestamp in microseconds. -/
  timestamp : Option Int
deriving Repr, DecidableEq

namespace Options

/-- Options that ask for nothing. -/
def none : Options := ⟨.none, .none, .none⟩

instance : Inhabited Options := ⟨none⟩

/-- Options with only a level. -/
def ofLevel (level : Level) : Options := { none with level := some level }

/-- Whether the call carries a level. -/
def hasLevel (options : Options) : Bool := options.level.isSome

/-- The options with another level. -/
def withLevel (options : Options) (level : Level) : Options :=
  { options with level := some level }

/-- The options with another write timestamp. -/
def withTimestamp (options : Options) (timestamp : Int) : Options :=
  { options with timestamp := some timestamp }

/-- The options without a level. -/
def withoutLevel (options : Options) : Options :=
  { options with level := .none }

end Options

end WideColumn
