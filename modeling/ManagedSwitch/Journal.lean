/-!
# Records

What a program tells its operator about its work: a record has a level of importance, the part of
the program that speaks, and a message.
-/

namespace ManagedSwitch

section Records

/-- How important a record is. -/
inductive Level
  | debug
  | info
  | warning
  | error
  | critical
deriving DecidableEq

/-- Levels as numbers, the more important ones higher. -/
def Level.rank : Level → Nat
  | .debug => 0
  | .info => 1
  | .warning => 2
  | .error => 3
  | .critical => 4

def Level.text : Level → String
  | .debug => "DEBUG"
  | .info => "INFO"
  | .warning => "WARNING"
  | .error => "ERROR"
  | .critical => "CRITICAL"

/-- The levels from the least to the most important one. -/
def Level.all : List Level :=
  [.debug, .info, .warning, .error, .critical]

/-- The part of the program that speaks. -/
inductive Topic
  | config
  | filter
  | compile
  | client
  | session
  | executor
  | provisioner
  | stats
  | tool
deriving DecidableEq

def Topic.text : Topic → String
  | .config => "xike_switch.config"
  | .filter => "xike_switch.utils.filter"
  | .compile => "xike_switch.utils.vlan_compile"
  | .client => "xike_switch.client.http"
  | .session => "xike_switch.client.session"
  | .executor => "xike_switch.client.executor"
  | .provisioner => "xike_switch.provisioner"
  | .stats => "xike_switch.stats"
  | .tool => "xike_switch.cli"

/-- A remark about the work. -/
structure Record where
  level : Level
  topic : Topic
  message : String
deriving DecidableEq

/-- Whether a record is at least as important as a level. -/
def Record.reaches
    (r : Record)
    (level : Level) :
    Bool :=
  level.rank ≤ r.level.rank

/-- A record as a line with the time at which it was made, if it is important enough. -/
def Record.stamped
    (stamp : String)
    (level : Level)
    (r : Record) :
    Option String :=
  if r.reaches level then
    some (stamp ++ " [" ++ r.level.text ++ "] " ++ r.topic.text ++ " - " ++ r.message)
  else
    none

/-- The message of a record, if it is a warning or worse. -/
def Record.bare (r : Record) : Option String :=
  if r.reaches .warning then some r.message else none

end Records

end ManagedSwitch
