/-
The written forms of the cloud's resources.

Each form has a writer `toJson` and a reader `ofJson?` that takes back what the
writer gives. The names of the fields are those of the cloud, letter for letter.
Fields that the cloud added on its own are passed over.
-/
import Settle.Cloud.Model
import Settle.Wire

set_option autoImplicit false

namespace Settle.Cloud

/-- A text wrapped in an object of one field. -/
def wrapped (key value : String) : Json := .object [(key, .string value)]

/-- The text in an object of one field. -/
def unwrapped? (key : String) (j : Json) : Option String := do
  (← j.fields? 1).required 0 key Json.string?

namespace Instance

def toJson (i : Instance) : Json :=
  .object [("pvmInstanceID", .string i.id), ("status", .ofOption .string i.status),
    ("health", .ofOption (wrapped "status") i.health),
    ("fault", .ofOption (wrapped "message") i.fault), ("memory", .real i.memory),
    ("processors", .real i.processors), ("maxmem", .real i.maxMemory),
    ("maxproc", .real i.maxProcessors), ("procType", .ofOption .string i.processorType)]

def ofJson? (j : Json) : Option Instance := do
  let f ← j.fields? 9
  let id ← f.required 0 "pvmInstanceID" Json.string?
  let status ← f.defaulted 1 "status" none (Json.nullable? Json.string?)
  let health ← f.defaulted 2 "health" none (Json.nullable? (unwrapped? "status"))
  let fault ← f.defaulted 3 "fault" none (Json.nullable? (unwrapped? "message"))
  let memory ← f.defaulted 4 "memory" 0 Json.number?
  let processors ← f.defaulted 5 "processors" 0 Json.number?
  let maxMemory ← f.defaulted 6 "maxmem" 0 Json.number?
  let maxProcessors ← f.defaulted 7 "maxproc" 0 Json.number?
  let processorType ← f.defaulted 8 "procType" none (Json.nullable? Json.string?)
  return { id, status, health, fault, memory, processors, maxMemory, maxProcessors, processorType }

end Instance

namespace InstanceUpdate

/-- The virtual cores, which are wrapped in an object of their own. -/
def coresToJson (assigned : Int64) : Json := .object [("assigned", .ofInt64 assigned)]

/-- The virtual cores in their object. -/
def coresOfJson? (j : Json) : Option Int64 := do
  (← j.fields? 1).required 0 "assigned" Json.int64?

/-- What is unset is left out. -/
def toJson (u : InstanceUpdate) : Json :=
  Json.objectOf [("serverName", u.name.map .string), ("memory", u.memory.map .real),
    ("processors", u.processors.map .real), ("procType", u.processorType.map .string),
    ("sapProfileID", u.sapProfile.map .string), ("virtualCores", u.virtualCores.map coresToJson)]

def ofJson? (j : Json) : Option InstanceUpdate := do
  let f ← j.fields? 6
  let name ← f.optional 0 "serverName" Json.string?
  let memory ← f.optional 1 "memory" Json.number?
  let processors ← f.optional 2 "processors" Json.number?
  let processorType ← f.optional 3 "procType" Json.string?
  let sapProfile ← f.optional 4 "sapProfileID" Json.string?
  let virtualCores ← f.optional 5 "virtualCores" coresOfJson?
  return { name, memory, processors, processorType, sapProfile, virtualCores }

end InstanceUpdate

def InstanceAction.toJson (a : InstanceAction) : Json := .string a.name

def InstanceAction.ofJson? : Json → Option InstanceAction := Json.tag? all name

namespace Volume

def toJson (v : Volume) : Json :=
  .object [("volumeID", .string v.id), ("state", .ofOption .string v.state)]

def ofJson? (j : Json) : Option Volume := do
  let f ← j.fields? 2
  let id ← f.required 0 "volumeID" Json.string?
  let state ← f.defaulted 1 "state" none (Json.nullable? Json.string?)
  return { id, state }

end Volume

namespace Image

def toJson (i : Image) : Json :=
  .object [("imageID", .string i.id), ("state", .ofOption .string i.state)]

def ofJson? (j : Json) : Option Image := do
  let f ← j.fields? 2
  let id ← f.required 0 "imageID" Json.string?
  let state ← f.defaulted 1 "state" none (Json.nullable? Json.string?)
  return { id, state }

end Image

namespace Network

def toJson (n : Network) : Json :=
  .object [("networkID", .string n.id), ("vlanID", .ofOption .ofInt64 n.vlan)]

def ofJson? (j : Json) : Option Network := do
  let f ← j.fields? 2
  let id ← f.required 0 "networkID" Json.string?
  let vlan ← f.defaulted 1 "vlanID" none (Json.nullable? Json.int64?)
  return { id, vlan }

end Network

namespace Port

def toJson (p : Port) : Json :=
  .object [("portID", .string p.id), ("status", .ofOption .string p.status),
    ("pvmInstance", .ofOption (wrapped "pvmInstanceID") p.attachedTo)]

def ofJson? (j : Json) : Option Port := do
  let f ← j.fields? 3
  let id ← f.required 0 "portID" Json.string?
  let status ← f.defaulted 1 "status" none (Json.nullable? Json.string?)
  let attachedTo ← f.defaulted 2 "pvmInstance" none (Json.nullable? (unwrapped? "pvmInstanceID"))
  return { id, status, attachedTo }

end Port

namespace Snapshot

def toJson (s : Snapshot) : Json :=
  .object [("snapshotID", .string s.id), ("status", .ofOption .string s.status),
    ("percentComplete", .ofInt64 s.percentComplete)]

def ofJson? (j : Json) : Option Snapshot := do
  let f ← j.fields? 3
  let id ← f.required 0 "snapshotID" Json.string?
  let status ← f.defaulted 1 "status" none (Json.nullable? Json.string?)
  let percentComplete ← f.defaulted 2 "percentComplete" 0 Json.int64?
  return { id, status, percentComplete }

end Snapshot

namespace SecurityGroup

def toJson (g : SecurityGroup) : Json :=
  .object [("id", .string g.id), ("rules", .array (g.rules.map (wrapped "id")))]

def ofJson? (j : Json) : Option SecurityGroup := do
  let f ← j.fields? 2
  let id ← f.required 0 "id" Json.string?
  let rules ← f.defaulted 1 "rules" [] (Json.list? (unwrapped? "id"))
  return { id, rules }

end SecurityGroup

namespace Connection

def toJson (c : Connection) : Json :=
  .object [("cloudConnectionID", .string c.id), ("name", .string c.name),
    ("speed", .ofInt64 c.speed)]

def ofJson? (j : Json) : Option Connection := do
  let f ← j.fields? 3
  let id ← f.required 0 "cloudConnectionID" Json.string?
  let name ← f.required 1 "name" Json.string?
  let speed ← f.required 2 "speed" Json.int64?
  return { id, name, speed }

end Connection

namespace ConnectionSpec

def toJson (s : ConnectionSpec) : Json :=
  .object [("name", .string s.name), ("speed", .ofInt64 s.speed),
    ("globalRouting", .bool s.globalRouting), ("metered", .bool s.metered),
    ("transitEnabled", .bool s.transitEnabled)]

def ofJson? (j : Json) : Option ConnectionSpec := do
  let f ← j.fields? 5
  let name ← f.required 0 "name" Json.string?
  let speed ← f.required 1 "speed" Json.int64?
  let globalRouting ← f.defaulted 2 "globalRouting" false Json.bool?
  let metered ← f.defaulted 3 "metered" false Json.bool?
  let transitEnabled ← f.defaulted 4 "transitEnabled" false Json.bool?
  return { name, speed, globalRouting, metered, transitEnabled }

end ConnectionSpec

namespace ConnectionUpdate

/-- What is unset is left out. -/
def toJson (u : ConnectionUpdate) : Json :=
  Json.objectOf [("name", u.name.map .string), ("speed", u.speed.map .ofInt64)]

def ofJson? (j : Json) : Option ConnectionUpdate := do
  let f ← j.fields? 2
  let name ← f.optional 0 "name" Json.string?
  let speed ← f.optional 1 "speed" Json.int64?
  return { name, speed }

end ConnectionUpdate

namespace ConnectionJob

def toJson (c : ConnectionJob) : Json :=
  .object [("cloudConnectionID", .string c.connection), ("jobRef", wrapped "id" c.job)]

def ofJson? (j : Json) : Option ConnectionJob := do
  let f ← j.fields? 2
  let connection ← f.required 0 "cloudConnectionID" Json.string?
  let job ← f.required 1 "jobRef" (unwrapped? "id")
  return { connection, job }

end ConnectionJob

namespace Job

/-- The report inside a job, whose fields may also be left out by place. -/
def reportOfJson? (j : Json) : Option JobReport := do
  let f ← j.fields? 2
  let state ← f.defaulted 0 "state" none (Json.nullable? Json.string?)
  let message ← f.defaulted 1 "message" none (Json.nullable? Json.string?)
  return { state, message }

def toJson (j : Job) : Json :=
  .object [("id", .string j.id), ("status", .ofOption JobReport.toJson j.status)]

def ofJson? (j : Json) : Option Job := do
  let f ← j.fields? 2
  let id ← f.required 0 "id" Json.string?
  let status ← f.defaulted 1 "status" none (Json.nullable? reportOfJson?)
  return { id, status }

end Job

end Settle.Cloud
