namespace FeatureLint

structure CheckOptions where
  /-- Files and directories to look through instead of the configured ones. -/
  paths : List String
  /-- Where the configuration is looked for. -/
  path : String
  ignoreTag : Option String
  verbose : Bool
  deriving DecidableEq, Repr

inductive Command where
  | check (options : CheckOptions)
  | init
  deriving DecidableEq, Repr

def Command.verbose : Command → Bool
  | .check options => options.verbose
  | .init => false

/-- The pages of the manual. -/
inductive Page where
  | overview
  | check
  | init
  | help
  deriving DecidableEq, Repr

/-- What the arguments ask for. To ask for nothing is not an error. -/
inductive Request where
  | nothing
  | run (command : Command)
  | help (page : Page)
  | version
  deriving DecidableEq, Repr

/-- How a run ended. -/
inductive Status where
  | clean
  | issuesFound
  | failed
  deriving DecidableEq, Repr

namespace Status

def ofIssueCount (count : Nat) : Status := if count = 0 then .clean else .issuesFound

def code : Status → Nat
  | .clean => 0
  | .issuesFound => 1
  | .failed => 2

end Status

end FeatureLint
