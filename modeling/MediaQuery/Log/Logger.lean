import MediaQuery.Log.Record
import MediaQuery.Log.Template

/-!
# Loggers

A logger makes records of events. The form of its records is that of the configuration under which
it was used first: later ones decide where its records go, but not how they look. As long as logging
is not configured nothing is kept, and a record is a line without the name of the logger, with the
arguments beside the text.

* `Renderer.record` makes the record of an event;
* `Logger` is a name with the renderer that it keeps and fields for all its events.
-/

namespace MediaQuery.Log

/--
How records of events are made: as long as logging is not configured, and under a configuration.
-/
inductive Renderer where
  | plain
  | configured (format : Format)
  deriving DecidableEq, Repr

namespace Renderer

/-- Whether events that are not recorded are dropped before a record is made of them. -/
def filters : Renderer → Bool
  | .plain => false
  | .configured _ => true

/-- What a logger keeps that is used with a renderer. -/
def lasting? : Renderer → Option Renderer
  | .plain => none
  | .configured format => some (.configured format)

/-- The record of an event. A configured renderer puts the arguments into the text. -/
def record (r : Renderer) (logger : String) (level : Level) (text : String) (args : List Value)
    (fields : Dict Value) : Except TemplateError Record :=
  match r with
  | .plain => .ok (Event.record { level, text, logger := none, fields, args } .console)
  | .configured format => do
    let text ← if args.isEmpty then pure text else fillTemplate text args
    return Event.record { level, text, logger := some logger, fields } format

end Renderer

/--
What events are logged with: the name that records show, the renderer that it keeps, and fields for
all its events.
-/
structure Logger where
  name : String
  kept : Option Renderer := none
  fields : Dict Value := .empty
  deriving Repr

namespace Logger

/-- The name of the logger without a name. -/
def rootName : String := "root"

/-- A new logger of a name. -/
def ofName (name : Option String) : Logger where
  name := (name.filter fun s => !s.isEmpty).getD rootName

/-- The fields of an event: those of the logger, with those of the event set over them. -/
def fieldsWith (l : Logger) (fields : List (String × Value)) : Dict Value :=
  l.fields.setAll fields

end Logger

end MediaQuery.Log
