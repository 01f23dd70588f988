import QueryCache.Cache.Store
import QueryCache.Codec.MessagePack
import QueryCache.Settings.Components
import QueryCache.Value.Canonical
import QueryCache.Value.Basic

/-! A cache kept by a Redis server.

Every change to an entry and its tags is one script on the server. Here are the commands that
are sent, the meaning of the replies, and how the server is reached. A record is the payload
and the tags of an entry, in MessagePack. -/

set_option autoImplicit false

namespace QueryCache

/-- The scripts that the server runs. -/
inductive RedisScript where
  | get
  | put
  | invalidate
  | touch
  | delete
  deriving DecidableEq, Repr

def RedisScript.name : RedisScript → String
  | .get => "GET"
  | .put => "PUT"
  | .invalidate => "INVALIDATE"
  | .touch => "TOUCH"
  | .delete => "DELETE"

inductive RedisCommand where
  | eval (script : RedisScript) (keys : List String) (args : List Value)
  /-- Lists the keys of a pattern. -/
  | scan (pattern : String)
  | delete (keys : List Value)
  | ping
  | close
  deriving Repr

/-- The command and what it is sent with. -/
def RedisCommand.describe : RedisCommand → Record
  | .eval script keys args =>
    [("eval", .str script.name), ("keys", .ofTexts keys), ("args", .list args)]
  | .scan pattern => [("scan", .str pattern)]
  | .delete keys => [("delete", .list keys)]
  | .ping => [("ping", .null)]
  | .close => [("aclose", .null)]

/-- How a server is reached: at an address, or by options alone. -/
structure RedisConnection where
  url : Option String := none
  options : Record := []
  deriving Repr

namespace RedisConnection

/-- An address without the credentials in it. -/
def masked (address : String) : String :=
  match Text.cut? '@' address.toList.reverse with
  | none => address
  | some (location, credentials) =>
    ((String.ofList credentials.reverse).splitOn "://").headD "" ++ "://***@" ++
      String.ofList location.reverse

/-- The connection that settings describe; other options give way to theirs. -/
def ofSettings (settings : CacheSettings) (others : Record) : RedisConnection :=
  let common := Record.setAll others [
    ("decode_responses", .bool false),
    ("connect_timeout", (settings.connectTimeout.map Value.float).getD .null),
    ("max_connections", (settings.maxConnections.map Value.int).getD .null)]
  match settings.connectionString.filter (!·.isEmpty) with
  | some address => ⟨some address, common⟩
  | none =>
    let secret (name : String) (given : Option String) : Record :=
      ((given.filter (!·.isEmpty)).map fun s => (name, Value.str s)).toList
    ⟨none, Record.setAll common
      ([("host", .str settings.host), ("port", .int settings.port), ("db", .int settings.db)] ++
        secret "username" settings.user ++ secret "password" settings.password)⟩

/-- The server as it is reported. -/
def target (settings : CacheSettings) (c : RedisConnection) : String :=
  match c.url with
  | some address => masked address
  | none => settings.host ++ ":" ++ toString settings.port

end RedisConnection

/-- An entry as a server gives it, whatever its record holds. -/
structure RedisEntry where
  key : String
  tags : List Value
  payload : Value
  expiresAt : Option Time
  deriving Repr

namespace RedisCache

/-- The start of every key of a cache. -/
def space (settings : CacheSettings) : String := settings.space ++ ":"

def entryKey (settings : CacheSettings) (key : String) : String :=
  space settings ++ "entry:" ++ key

def tagKey (settings : CacheSettings) (tag : String) : String :=
  space settings ++ "tag:" ++ tag

/-- The key of the names of the tag indexes that an entry belongs to. -/
def linksKey (settings : CacheSettings) (key : String) : String :=
  space settings ++ "links:" ++ key

def entryKeys (settings : CacheSettings) (key : String) : List String :=
  [entryKey settings key, linksKey settings key]

/-- A number that is none has no whole part. -/
def notWhole : Failure := .invalid "cannot convert float NaN to integer"

/-- An infinity has no whole part either. -/
def beyondWhole : Failure := .overflow "cannot convert float infinity to integer"

/-- Whole milliseconds, at least one; no span is written as zero. -/
def millis (ttl : Option Number) : Except Failure Int :=
  match ttl with
  | none => .ok 0
  | some (.whole n) => .ok (max (n * 1000) 1)
  | some (.binary .nan) => .error notWhole
  | some (.binary x) =>
    match (Binary64.mul x (Binary64.ofInt 1000)).truncate? with
    | some n => .ok (max n 1)
    | none => .error beyondWhole

/-- The record of an entry. -/
def recordOf (entry : CacheEntry) : Except Failure Bytes :=
  MessagePack.encode (.list [.bytes entry.payload, .list (entry.tags.map .str)])

/-- The integer that a reply is or writes. -/
def intOf : Value → Except Failure Int
  | .bool b => .ok (if b then 1 else 0)
  | .int n => .ok n
  | .nan _ => .error notWhole
  | .float .nan => .error notWhole
  | .float x =>
    match x.truncate? with
    | some n => .ok n
    | none => .error beyondWhole
  | .str s => (Text.readInteger s.toList).mapError Failure.ofInteger
  | .bytes b =>
    (Text.readInteger (b.map fun byte => Char.ofNat byte.toNat)).mapError Failure.ofInteger
  | other => .error (.wrongType other.typeName)

/-- The two parts of a reply. -/
def pairOf (reply : Value) : Except Failure (Value × Value) :=
  match reply.parts? with
  | some [first, second] => .ok (first, second)
  | some _ => .error .malformedReply
  | none => .error (.wrongType reply.typeName)

/-- The bytes that a value holds. -/
def bytesOf : Value → Except Failure Bytes
  | .bytes b => .ok b
  | other => .error (.wrongType other.typeName)

/-- The expiry that a number of milliseconds from now stands for; a negative one stands for
none. -/
def expiryOf (now : Time) (millis : Value) : Except Failure (Option Time) := do
  if millis.isNull then return none
  let n ← intOf millis
  if n < 0 then return none
  match Binary64.ofRatio false n.toNat 1000 with
  | .infinite _ => throw (.overflow "integer division result too large for a float")
  | seconds => return some (now.add seconds)

/-- The tags that a value holds, each once: whatever can be a key. -/
def tagsOf (tags : Value) : Except Failure (List Value) :=
  match tags.parts? with
  | none => .error (.wrongType tags.typeName)
  | some parts =>
    if MessagePack.areKeys parts then .ok (Value.distinct parts)
    else .error (.wrongType tags.typeName)

/-- The entry that a reply holds. -/
def entryOf (now : Time) (key : String) (reply : Value) : Except Failure (Option RedisEntry) := do
  if !reply.isPresent then return none
  let (record, millis) ← pairOf reply
  let (payload, tags) ← pairOf (← MessagePack.decodeOpened (← bytesOf record))
  let expiry ← expiryOf now millis
  return some ⟨key, ← tagsOf tags, payload, expiry⟩

end RedisCache

namespace RedisEntry

/-- The entry as every cache keeps them: its payload is bytes, and its tags are texts. A payload
that is anything else is given as no bytes, which no codec can decode either. -/
def narrow (entry : RedisEntry) : CacheEntry :=
  ⟨entry.key, tagSet (entry.tags.map (·.text)), (RedisCache.bytesOf entry.payload).toOption.getD [],
    entry.expiresAt⟩

/-- The entry with its tags in order, if they have one. -/
def inOrder (entry : RedisEntry) : Except Failure RedisEntry :=
  if Value.mutuallyOrdered entry.tags then
    .ok { entry with tags := Value.sortBeside entry.tags entry.tags }
  else .error (.wrongType "frozenset")

/-- An entry as it stands at some time. -/
def describe (entry : RedisEntry) (now : Time) : Record :=
  [("key", .str entry.key), ("tags", .list entry.tags), ("payload", entry.payload)] ++
    describeExpiry entry.expiresAt now

end RedisEntry

/-- A cache on a server in use: what is known of the server, the replies it is going to give
and the commands it was sent. -/
structure RedisHost where
  settings : CacheSettings
  /-- Options of the connection besides those of the settings. -/
  options : Record := []
  now : Time := Binary64.ofInt 1000
  connection : Option RedisConnection := none
  /-- Whether closing has to release the connection. -/
  held : Bool := false
  replies : List (Except StoreFault Value) := []
  sent : List RedisCommand := []
  logs : List LogRecord := []
  closed : Bool := false

namespace RedisHost

open RedisCache

def report (record : LogRecord) (h : RedisHost) : RedisHost :=
  { h with logs := h.logs ++ [record] }

/-- A cache that is given its connection. -/
def connected (settings : CacheSettings) (options : Record) : RedisHost :=
  { settings := settings, options := options, connection := some {}, held := true }

/-- The connection, made when it is first needed. -/
def connect (h : RedisHost) : RedisConnection × RedisHost :=
  match h.connection with
  | some connection => (connection, h)
  | none =>
    let connection := RedisConnection.ofSettings h.settings h.options
    let h := h.report ⟨.info, "redis",
      "Connecting Redis cache to " ++ connection.target h.settings⟩
    (connection, { h with connection := some connection, held := true })

/-- Makes the connection before what comes next can fail. -/
def connectFirst : Attempt RedisHost Unit := fun h => (.ok (), h.connect.2)

/-- Sends a command on behalf of an operation; without a reply at hand the reply is null. -/
def ask (operation : String) (command : RedisCommand) : Attempt RedisHost Value := fun h =>
  let (_, h) := h.connect
  let reply := h.replies.headD (.ok .null)
  let h := { h with sent := h.sent ++ [command], replies := h.replies.drop 1 }
  match reply with
  | .ok value => (.ok value, h)
  | .error fault =>
    (.error (fault.seen operation),
      ((fault.report? operation).map fun record => h.report record).getD h)

def eval (operation : StoreOperation) (script : RedisScript) (keys : List String)
    (args : List Value) : Attempt RedisHost Value :=
  ask operation.name (.eval script keys args)

/-- What has no effects, as an attempt. -/
def attempt {α : Type} (outcome : Except Failure α) : Attempt RedisHost α := fun h =>
  (outcome, h)

/-- The entry that the server has under a key. -/
def find (key : String) : Attempt RedisHost (Option RedisEntry) := do
  let settings := (← getThe RedisHost).settings
  let reply ← eval .get .get [entryKey settings key] []
  attempt (entryOf (← getThe RedisHost).now key reply)

/-- The entry under a key as it is shown, with its tags in order. -/
def read (key : String) : Attempt RedisHost (Option RedisEntry) := do
  attempt ((← find key).mapM RedisEntry.inOrder)

def get (key : String) : Attempt RedisHost (Option CacheEntry) := do
  return (← find key).map RedisEntry.narrow

/-- An entry that is already expired is not sent. -/
def put (entry : CacheEntry) : Attempt RedisHost Unit := do
  attempt entry.checkTags
  let h ← getThe RedisHost
  let left := entry.remaining h.now
  if left.any fun span => Time.le span Binary64.zero then return
  connectFirst
  let record ← attempt (recordOf entry)
  let ttl ← attempt (millis (left.map Number.binary))
  let _ ← eval .put .put (entryKeys h.settings entry.key ++ entry.tags.map (tagKey h.settings))
    [.bytes record, .int ttl]

def invalidate (tags : List String) : Attempt RedisHost Int := do
  let tags := tagSet tags
  if tags.isEmpty then return 0
  let settings := (← getThe RedisHost).settings
  let reply ← eval .invalidate .invalidate (tags.map (tagKey settings))
    [.str (entryKey settings ""), .str (linksKey settings "")]
  if reply.isPresent then attempt (intOf reply) else return 0

def delete (key : String) : Attempt RedisHost Bool := do
  let settings := (← getThe RedisHost).settings
  return (← eval .delete .delete (entryKeys settings key) []).isPresent

def touch (key : String) (ttl : Number) : Attempt RedisHost Bool := do
  let settings := (← getThe RedisHost).settings
  connectFirst
  let span ← attempt (millis (some ttl))
  return (← eval .touch .touch (entryKeys settings key) [.int span]).isPresent

/-- Deletes every key of the cache. -/
def clear : Attempt RedisHost Unit := do
  let settings := (← getThe RedisHost).settings
  let reply ← ask "clear" (.scan (space settings ++ "*"))
  let keys := reply.parts?.getD []
  if keys.isEmpty then return
  let _ ← ask "clear" (.delete keys)

/-- Whether the server answers. -/
def ping : Attempt RedisHost Bool := do
  return (← ask "ping" .ping).isPresent

/-- Releases the connection; a second time there is nothing to release. -/
def close (h : RedisHost) : RedisHost :=
  if h.closed then h
  else
    { h with
      sent := if h.held then h.sent ++ [.close] else h.sent
      held := false
      closed := true }

def store : CacheStore RedisHost where
  get := get
  put := put
  invalidate := invalidate
  delete := delete
  touch := touch
  clear := clear
  now h := h.now
  report := report
  pass seconds h := { h with now := h.now.add seconds }
  settle h := h

end RedisHost

end QueryCache
