import ManagedSwitch.Config.Basic
import ManagedSwitch.Stats.PortStats

/-!
# Metric lines

The statistics of a port are published as one line: tags for the switch, its address and the port,
then the state and the counters as fields.  In tags, backslashes, commas, equals signs and spaces
are escaped by a backslash; in the state, backslashes and quotation marks.
-/

namespace ManagedSwitch
namespace MetricLine

section Escapes

def escapeTagChar (c : Char) : List Char :=
  if c = '\\' || c = ',' || c = '=' || c = ' ' then ['\\', c] else [c]

def escapeTag (s : String) : List Char :=
  s.toList.flatMap escapeTagChar

def escapeFieldChar (c : Char) : List Char :=
  if c = '\\' || c = '"' then ['\\', c] else [c]

def escapeField (s : String) : List Char :=
  s.toList.flatMap escapeFieldChar

end Escapes

section Lines

def counterField (name : String) (n : Int) : List Char :=
  name.toList ++ '=' :: Number.chars n ++ ['i']

def tags (switch : Switch) (port : String) : List Char :=
  ",switch=".toList ++ escapeTag switch.key ++ ",host=".toList ++ escapeTag switch.address ++
    ",port=".toList ++ escapeTag port

def fields (stats : PortStats) : List Char :=
  "state=\"".toList ++ escapeField stats.state ++ "\",".toList ++
    counterField "link_up" (if stats.linkUp then 1 else 0) ++ ',' ::
    counterField "tx_good" stats.sentGood ++ ',' :: counterField "tx_bad" stats.sentBad ++ ',' ::
    counterField "rx_good" stats.receivedGood ++ ',' ::
    counterField "rx_bad" stats.receivedBad

def text
    (switch : Switch)
    (port : String)
    (stats : PortStats) :
    String :=
  String.ofList ("switch_port".toList ++ tags switch port ++ ' ' :: fields stats)

end Lines

end MetricLine
end ManagedSwitch
