import ManagedSwitch.Net.Seconds
import ManagedSwitch.Number.Integer
import ManagedSwitch.Table
import ManagedSwitch.Text.Utf8

/-!
# Networks

A network tells for every host what happens when it is talked to: how its addresses take
connections, how long sending takes and what arrives, and which of these steps fail.  Every
conversation uses up one exchange of the host; the last one stays for all further conversations.
-/

namespace ManagedSwitch

section Types

/-- What stops a step. -/
inductive Trouble
  | timeout
  | failure (reason : String)
deriving DecidableEq

/-- The trouble with a number and a text; one number stands for a timeout. -/
def Trouble.numbered
    (code : Int)
    (reason : String) :
    Trouble :=
  if code = 110 then .timeout
  else .failure ("[Errno " ++ Number.text code ++ "] " ++ reason)

/-- A step that takes time and may fail after it. -/
structure Step (τ : Type) where
  took : τ
  trouble : Option Trouble

/-- What arrives: bytes, or nothing for some time. -/
inductive Arrival (τ : Type)
  | bytes (chunk : Bytes)
  | wait (step : Step τ)

/-- What happens in one conversation. -/
structure Exchange (τ : Type) where
  resolving : Option Trouble
  addresses : List (Step τ)
  sending : Step τ
  arrivals : List (Arrival τ)

/-- The exchanges that hosts have ahead of them. -/
abbrev Network (τ : Type) := Table String (List (Exchange τ))

end Types

section Reading

/-- The most bytes that are read at once. -/
def readSize : Nat := 4096

/-- A chunk cut into pieces that are read at once. -/
def pieces
    (chunk : Bytes) :
    List Bytes :=
  if chunk.length ≤ readSize then
    [chunk]
  else
    chunk.take readSize :: pieces (chunk.drop readSize)
termination_by chunk.length
decreasing_by
  rename_i short
  have long : readSize < chunk.length := Nat.lt_of_not_le short
  rw [List.length_drop]
  exact Nat.sub_lt (Nat.lt_of_le_of_lt (Nat.zero_le _) long) (by decide)

/-- What is read one after the other. -/
def Arrival.split {τ : Type} : Arrival τ → List (Arrival τ)
  | .bytes chunk => (pieces chunk).map .bytes
  | .wait step => [.wait step]

/-- The next exchange of a host, and the network after it. -/
def Network.take
    {τ : Type}
    (network : Network τ)
    (host : String) :
    Option (Exchange τ × Network τ) :=
  match network.get? host with
  | none | some [] => none
  | some [e] => some (e, network)
  | some (e :: rest) => some (e, network.put host rest)

end Reading

end ManagedSwitch
