import DocQuery.Settings.Duration

/-!
# Settings of a client

A client of a server has ten settings, each of which may be left open. Settings from two places are
laid over each other one by one.

The options of the driver hold these ten settings and a good many others, which are not touched and
of which nothing is assumed. Members to be read from are chosen in the driver's own terms there.
-/

namespace DocQuery

/-- Which members of a replica set are read from. -/
inductive ReadPreference where
  | primary
  | primaryPreferred
  | secondary
  | secondaryPreferred
  | nearest
deriving DecidableEq, Repr

namespace ReadPreference

instance : Inhabited ReadPreference := ⟨primary⟩

def all : List ReadPreference :=
  [primary, primaryPreferred, secondary, secondaryPreferred, nearest]

def name : ReadPreference → String
  | primary => "primary"
  | primaryPreferred => "primaryPreferred"
  | secondary => "secondary"
  | secondaryPreferred => "secondaryPreferred"
  | nearest => "nearest"

end ReadPreference

/-- Which members the driver reads from. Other members than the primary may have to meet conditions
of type `γ`. A choice by a predicate, which nothing written can express, has no place here. -/
inductive SelectionCriteria (γ : Type) where
  | primary
  | primaryPreferred (conditions : γ)
  | secondary (conditions : γ)
  | secondaryPreferred (conditions : γ)
  | nearest (conditions : γ)
deriving DecidableEq, Repr

/-- A read preference in the driver's terms, under the conditions that count where none are named. -/
def ReadPreference.toDriver {γ : Type} [Inhabited γ] : ReadPreference → SelectionCriteria γ
  | primary => .primary
  | primaryPreferred => .primaryPreferred default
  | secondary => .secondary default
  | secondaryPreferred => .secondaryPreferred default
  | nearest => .nearest default

/-- Settings of a client, any of which may be left open. What is read from is said by a `π`. -/
structure ClientSettings (π : Type) where
  appName : Option String := none
  minPoolSize : Option UInt32 := none
  maxPoolSize : Option UInt32 := none
  maxIdleTime : Option Duration := none
  connectTimeout : Option Duration := none
  serverSelectionTimeout : Option Duration := none
  readPreference : Option π := none
  retryWrites : Option Bool := none
  retryReads : Option Bool := none
  directConnection : Option Bool := none
deriving DecidableEq, Repr

namespace ClientSettings

/-- Settings laid over others: what the first leave open is taken from the second. -/
def layOver {π : Type} (own others : ClientSettings π) : ClientSettings π where
  appName := own.appName <|> others.appName
  minPoolSize := own.minPoolSize <|> others.minPoolSize
  maxPoolSize := own.maxPoolSize <|> others.maxPoolSize
  maxIdleTime := own.maxIdleTime <|> others.maxIdleTime
  connectTimeout := own.connectTimeout <|> others.connectTimeout
  serverSelectionTimeout := own.serverSelectionTimeout <|> others.serverSelectionTimeout
  readPreference := own.readPreference <|> others.readPreference
  retryWrites := own.retryWrites <|> others.retryWrites
  retryReads := own.retryReads <|> others.retryReads
  directConnection := own.directConnection <|> others.directConnection

def toDriver {γ : Type} [Inhabited γ] (settings : ClientSettings ReadPreference) :
    ClientSettings (SelectionCriteria γ) :=
  { settings with readPreference := settings.readPreference.map ReadPreference.toDriver }

end ClientSettings

/-- The options of a client in the driver: the ten settings, and others of which nothing is known. -/
structure ClientOptions (γ ρ : Type) where
  settings : ClientSettings (SelectionCriteria γ) := {}
  others : ρ
deriving DecidableEq, Repr

end DocQuery
