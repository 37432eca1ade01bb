import Evergreen.Cdc.Shim
import Mathlib.Logic.Function.Basic

namespace Evergreen.Cdc

/-! # Polling Redis

The loop of `start_redis_cdc`.  A poll is given by what the server answers: for
each pattern the pages of its SCAN, with what TYPE and TTL say of every key in
them.  The pages of a pattern may end early; the query that is not answered
counts as an empty last page.
-/

/-- The JSON values of the events. -/
inductive RedisValue where
  | checksum (checksum : String)
  | entry (key valType : String) (ttl : Int)
deriving DecidableEq, Repr

structure Reading where
  key : String
  valType : String
  ttl : Int
  /-- The clock, once as a number and once as a text. -/
  timestampMillis : Int
  timestamp : String
deriving DecidableEq, Repr

structure Page where
  cursor : Nat
  readings : List Reading
deriving DecidableEq, Repr

structure Poll where
  scans : List (List Page)
  outcomes : Nat → Outcome
  now : String

def checksum (valType : String) (ttl : Int) : String := s!"{valType}:{ttl}"

structure RedisCdc where
  shim : CdcShim RedisValue
  prevChecksums : String → Option String := fun _ => none

namespace RedisCdc

variable (cdc : RedisCdc)

def event (reading : Reading) : CdcEvent RedisValue where
  eventId := s!"redis-cdc-{reading.timestampMillis}"
  lsn := s!"redis:{reading.key}"
  timestamp := reading.timestamp
  table := "redis"
  operation := if cdc.prevChecksums reading.key = none then .insert else .update
  before := (cdc.prevChecksums reading.key).map .checksum
  after := some (.entry reading.key reading.valType reading.ttl)
  published := false

def visit (reading : Reading) : RedisCdc :=
  let checksum := checksum reading.valType reading.ttl
  if cdc.prevChecksums reading.key ≠ some checksum then
    { shim := (cdc.shim.capture (cdc.event reading)).1
      prevChecksums := Function.update cdc.prevChecksums reading.key (some checksum) }
  else cdc

/-- The scan of one pattern ends with the first page whose cursor is zero. -/
def scanPattern (cdc : RedisCdc) : List Page → RedisCdc
  | [] => cdc
  | page :: pages =>
      let cdc := page.readings.foldl visit cdc
      if page.cursor = 0 then cdc else scanPattern cdc pages

def scan (scans : List (List Page)) : RedisCdc := scans.foldl scanPattern cdc

def poll (poll : Poll) : RedisCdc :=
  let cdc := cdc.scan poll.scans
  { cdc with shim := (cdc.shim.publishBatch poll.outcomes poll.now).1 }

end RedisCdc

end Evergreen.Cdc
