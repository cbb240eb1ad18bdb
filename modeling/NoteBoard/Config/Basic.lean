/-! Configuration of the board. Every field has a default. -/

namespace NoteBoard

structure Config.Listener where
  bindAddress : String := "0.0.0.0:8080"
  deriving DecidableEq, Repr

/-- The least time between two accepted requests, in nanoseconds. -/
structure Config.Spacing where
  minInterval : Nat := 1000
  deriving DecidableEq, Repr

structure Config.Database where
  path : String := "sndb.db"
  deriving DecidableEq, Repr

structure Config.PasteService where
  enabled : Bool := true
  endpoint : String := "http://dpaste.com/api/v2/"
  timeout : Nat := 10
  deriving DecidableEq, Repr

structure Config.Timeouts where
  request : Nat := 30
  deriving DecidableEq, Repr

structure Config.Hardening where
  /-- Whether responses carry the headers that restrict browsers. -/
  headers : Bool := true
  maxBodySize : Nat := 65536
  deriving DecidableEq, Repr

structure Config.Observation where
  logLevel : String := "info"
  metricsEnabled : Bool := false
  metricsAddress : String := "127.0.0.1:9090"
  deriving DecidableEq, Repr

structure Config where
  listener : Config.Listener := {}
  throttle : Config.Spacing := {}
  store : Config.Database := {}
  paste : Config.PasteService := {}
  timeouts : Config.Timeouts := {}
  security : Config.Hardening := {}
  observability : Config.Observation := {}
  deriving DecidableEq, Repr

/-- The log filter for a level: it applies to the board itself and to the traces of requests. -/
def logDirectives (level : String) : String :=
  "share_notes=" ++ level ++ ",tower_http=" ++ level

end NoteBoard
