import QueryCache.Codec.Payload
import QueryCache.Criteria.Transcoder
import QueryCache.Settings.Schema

/-! The settings of the three components: repositories, caches and the logger. -/

set_option autoImplicit false

namespace QueryCache

namespace Record

def flag (settings : Record) (name : String) (default : Bool) : Bool :=
  match settings.get? name with
  | some (.bool b) => b
  | _ => default

def whole (settings : Record) (name : String) (default : Int) : Int :=
  match settings.get? name with
  | some (.int n) => n
  | _ => default

def text? (settings : Record) (name : String) : Option String :=
  match settings.get? name with
  | some (.str s) => some s
  | _ => none

def textsOf (settings : Record) (name : String) : List String :=
  match settings.get? name with
  | some (.list items) => items.filterMap SettingType.readText?
  | _ => []

def binary? (settings : Record) (name : String) : Option Binary64 :=
  match settings.get? name with
  | some (.float x) => some x
  | _ => none

end Record

/-- What a repository caches, how it answers pages and how it reads requests. -/
structure RepositorySettings where
  cacheEnabled : Bool := true
  cacheTtl : Int := 1800
  keyMark : String := "repo"
  /-- The only reads to cache, if there are any. -/
  cacheOnly : List String := []
  cacheExcept : List String := []
  cleanOnCreate : Bool := true
  cleanOnUpdate : Bool := true
  cleanOnDelete : Bool := true
  skipCacheParam : String := "skipCache"
  invalidationAttempts : Int := 3
  invalidationDelay : Binary64 := Binary64.ofRatio false 1 20
  maxPageSize : Int := 1000
  pageSize : Int := 15
  params : ParamNames := {}
  enhancedSearch : Bool := true
  decodePolicy : DecodePolicy := .noMatch
  decodeSearch : Bool := true
  decodeFilters : Bool := true
  deriving Repr

namespace RepositorySettings

/-- An integer of at least one. -/
def positive : SettingType := .whole (some 1) none

def schema : SettingsSchema where
  mark := "AREPO_REPOSITORY_"
  fields := [
    ⟨"cache_enabled", .flag, .bool true, false⟩,
    ⟨"cache_ttl", positive, .int 1800, false⟩,
    ⟨"cache_prefix", .text, .str "repo", false⟩,
    ⟨"cache_only", .texts, .list [], true⟩,
    ⟨"cache_except", .texts, .list [], true⟩,
    ⟨"clean_on_create", .flag, .bool true, false⟩,
    ⟨"clean_on_update", .flag, .bool true, false⟩,
    ⟨"clean_on_delete", .flag, .bool true, false⟩,
    ⟨"skip_cache_param", .text, .str "skipCache", false⟩,
    ⟨"invalidation_attempts", positive, .int 3, false⟩,
    ⟨"invalidation_delay", .number true, .float (Binary64.ofRatio false 1 20), false⟩,
    ⟨"max_page_size", positive, .int 1000, false⟩,
    ⟨"page_size", positive, .int 15, false⟩,
    ⟨"params", .paramNames, .names {}, true⟩,
    ⟨"enhanced_search", .flag, .bool true, false⟩,
    ⟨"decode_policy", .choice ["no_match", "literal", "error"], .str "no_match", false⟩,
    ⟨"decode_search", .flag, .bool true, false⟩,
    ⟨"decode_filters", .flag, .bool true, false⟩]
  check settings :=
    match settings.get? "max_page_size", settings.get? "page_size" with
    | some (.int most), some (.int size) => if most < size then ["page_size"] else []
    | _, _ => []

def ofRecord (r : Record) : RepositorySettings where
  cacheEnabled := r.flag "cache_enabled" true
  cacheTtl := r.whole "cache_ttl" 1800
  keyMark := (r.text? "cache_prefix").getD "repo"
  cacheOnly := r.textsOf "cache_only"
  cacheExcept := r.textsOf "cache_except"
  cleanOnCreate := r.flag "clean_on_create" true
  cleanOnUpdate := r.flag "clean_on_update" true
  cleanOnDelete := r.flag "clean_on_delete" true
  skipCacheParam := (r.text? "skip_cache_param").getD "skipCache"
  invalidationAttempts := r.whole "invalidation_attempts" 3
  invalidationDelay := (r.binary? "invalidation_delay").getD (Binary64.ofRatio false 1 20)
  maxPageSize := r.whole "max_page_size" 1000
  pageSize := r.whole "page_size" 15
  params :=
    match r.get? "params" with
    | some (.names given) => given
    | _ => {}
  enhancedSearch := r.flag "enhanced_search" true
  decodePolicy := ((r.text? "decode_policy").bind DecodePolicy.ofCode?).getD .noMatch
  decodeSearch := r.flag "decode_search" true
  decodeFilters := r.flag "decode_filters" true

def load (direct : Record) : Except Failure RepositorySettings :=
  (schema.load [] direct).map ofRecord

end RepositorySettings

/-- How a cache stores entries and where its server is. -/
structure CacheSettings where
  space : String := "arepo"
  defaultTtl : Int := 1800
  refreshTtlOnHit : Bool := false
  codec : Codec := {}
  host : String := "127.0.0.1"
  port : Int := 6379
  db : Int := 0
  user : Option String := none
  password : Option String := none
  connectionString : Option String := none
  connectTimeout : Option Binary64 := some (Binary64.ofInt 3)
  maxConnections : Option Int := some 50
  deriving Repr

namespace CacheSettings

def anyWhole : SettingType := .whole none none

def schema : SettingsSchema where
  mark := "AREPO_CACHE_"
  fields := [
    ⟨"namespace", .text, .str "arepo", false⟩,
    ⟨"default_ttl", .whole (some 1) none, .int 1800, false⟩,
    ⟨"refresh_ttl_on_hit", .flag, .bool false, false⟩,
    ⟨"serializer", .choice ["pickle", "msgpack"], .str "pickle", false⟩,
    ⟨"compress_large_objects", .flag, .bool true, false⟩,
    ⟨"compression_threshold", anyWhole, .int 1024, false⟩,
    ⟨"compression_level", .whole (some 0) (some 11), .int 4, false⟩,
    ⟨"host", .secret, .str "127.0.0.1", false⟩,
    ⟨"port", anyWhole, .int 6379, false⟩,
    ⟨"db", anyWhole, .int 0, false⟩,
    ⟨"user", .optional .secret, .null, false⟩,
    ⟨"password", .optional .secret, .null, false⟩,
    ⟨"connection_string", .optional .text, .null, false⟩,
    ⟨"connect_timeout", .optional (.number false), .float (Binary64.ofInt 3), false⟩,
    ⟨"max_connections", .optional anyWhole, .int 50, false⟩]

def ofRecord (r : Record) : CacheSettings where
  space := (r.text? "namespace").getD "arepo"
  defaultTtl := r.whole "default_ttl" 1800
  refreshTtlOnHit := r.flag "refresh_ttl_on_hit" false
  codec := {
    serializer := if r.text? "serializer" = some "msgpack" then .messagePack else .exact
    compress := r.flag "compress_large_objects" true
    threshold := r.whole "compression_threshold" 1024
    level := r.whole "compression_level" 4 }
  host := (r.text? "host").getD "127.0.0.1"
  port := r.whole "port" 6379
  db := r.whole "db" 0
  user := r.text? "user"
  password := r.text? "password"
  connectionString := r.text? "connection_string"
  connectTimeout := r.binary? "connect_timeout"
  maxConnections :=
    match r.get? "max_connections" with
    | some (.int n) => some n
    | _ => none

def load (direct : Record) : Except Failure CacheSettings :=
  (schema.load [] direct).map ofRecord

end CacheSettings

/-- What is logged, and how a record is laid out. -/
structure LoggerSettings where
  level : String := "INFO"
  format : List (String × String) := []
  colorize : Bool := true
  deriving Repr

namespace LoggerSettings

/-- The parts of a log record, in the order they are written. -/
def defaultFormat : List (String × String) := [
  ("time", "<b><e>[</e> <w>\x7btime:YYYY-MM-DD HH:mm:ss.SSS\x7d</w> <e>]</e></b>"),
  ("level", " <level>\x7blevel:>8\x7d</level>"),
  ("sep", " <b><w>in</w></b> "),
  ("name", "<b>\x7bextra[mod_name]:>20\x7d</b>"),
  ("line", "<b><e>[</e><w>\x7bline:^5\x7d</w><e>]</e></b>"),
  ("message", "  <level>\x7bmessage\x7d</level>")]

def schema : SettingsSchema where
  mark := "AREPO_LOGGER_"
  fields := [
    ⟨"level", .text, .str "INFO", false⟩,
    ⟨"format", .textMap, .dict (defaultFormat.map fun part => (part.1, .str part.2)), false⟩,
    ⟨"colorize", .flag, .bool true, false⟩,
    ⟨"backtrace", .flag, .bool false, false⟩,
    ⟨"diagnose", .flag, .bool false, false⟩]

def ofRecord (r : Record) : LoggerSettings where
  level := (r.text? "level").getD "INFO"
  format :=
    match r.get? "format" with
    | some (.dict parts) => parts.filterMap fun part =>
      (SettingType.readText? part.2).map ((part.1, ·))
    | _ => defaultFormat
  colorize := r.flag "colorize" true

def load (direct : Record) : Except Failure LoggerSettings :=
  (schema.load [] direct).map ofRecord

end LoggerSettings

end QueryCache
