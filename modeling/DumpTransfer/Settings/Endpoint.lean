import DumpTransfer.Settings.Basic
import DumpTransfer.Text.Utf8

/-! What a connection string says of an endpoint: hosts, ports, a database and a user. The
string is a URL, or words that each give a value to a key.
-/

namespace DumpTransfer

/-- An endpoint. -/
structure Endpoint where
  /-- Names of hosts, or paths of sockets. -/
  hosts : List Text := []
  ports : List Nat := []
  database : Option Text := none
  user : Option Text := none
  deriving DecidableEq, Repr

namespace Endpoint

/-- An endpoint in a message: the first host, the first port and the database. -/
def display (endpoint : Endpoint) : Text :=
  endpoint.hosts.head?.getD "localhost" ++ ":" ++ Text.ofNat (endpoint.ports.head?.getD 5432)
    ++ "/" ++ endpoint.database.getD []

/-- Whether a text is a number of 64 bits with a sign or without. -/
def isInteger (text : Text) : Bool :=
  match text with
  | '-' :: digits => (Text.toNat? digits).any (· ≤ Nat.pow 2 63)
  | _ => (Text.natural? (Nat.pow 2 63) text).isSome

/-- Whether a text is a number of one byte without needless zeros. -/
def isByteNumber (text : Text) : Bool :=
  text.length ≤ 3 && (text.length = 1 || text.head? ≠ some '0')
    && (Text.toNat? text).any (· < 256)

/-- Whether a text is an address of four bytes. -/
def isFourByteAddress (text : Text) : Bool :=
  let parts := Text.partsBetween (· = '.') text
  parts.length = 4 && parts.all isByteNumber

/-- Whether a text is a group of an address of eight groups. -/
def isGroup (text : Text) : Bool :=
  text.length ≤ 4 && (Text.ofRadix? 16 text).isSome

/-- The number of groups between colons. An address of four bytes may stand at the end in the
place of two groups.
-/
def groupCount? (allowsBytes : Bool) (text : Text) : Option Nat :=
  if text.isEmpty then some 0
  else
    let parts := Text.partsBetween (· = ':') text
    if parts.all isGroup then some parts.length
    else if allowsBytes && parts.dropLast.all isGroup
        && parts.getLast?.any isFourByteAddress then some (parts.length + 1)
    else none

/-- The text before the first two colons in a row and the text after them. -/
def splitAtColons? : Text → Option (Text × Text)
  | ':' :: ':' :: rest => some ([], rest)
  | [] => none
  | char :: rest => (splitAtColons? rest).map fun (before, after) => (char :: before, after)

/-- Whether a text is an address of eight groups, some of which may be left out once. -/
def isGroupAddress (text : Text) : Bool :=
  match splitAtColons? text with
  | none => groupCount? true text = some 8
  | some (before, after) =>
      match groupCount? false before, groupCount? true after with
      | some left, some right => left + right ≤ 7
      | _, _ => false

/-- Whether a text is a numeric address. -/
def isAddress (text : Text) : Bool :=
  isFourByteAddress text || isGroupAddress text

/-- The port that a text gives; no text gives the usual one. -/
def port? (text : Text) : Option Nat :=
  if text.isEmpty then some 5432 else Text.natural? (Nat.pow 2 16) text

/-- The words that are accepted for keys with a few possible values. -/
def choices : List (String × List String) := [
  ("sslmode", ["disable", "prefer", "require"]),
  ("sslnegotiation", ["postgres", "direct"]),
  ("target_session_attrs", ["any", "read-write", "read-only"]),
  ("channel_binding", ["disable", "prefer", "require"]),
  ("load_balance_hosts", ["disable", "random"])]

/-- Whether a value is accepted for a key that says nothing of the endpoint itself. -/
def accepts (key value : Text) : Bool :=
  match choices.lookup key.toString with
  | some words => words.contains value.toString
  | none =>
      match key.toString with
      | "password" | "options" | "application_name" => true
      | "hostaddr" => (Text.partsBetween (· = ',') value).all isAddress
      | "connect_timeout" | "tcp_user_timeout" | "keepalives_idle" | "keepalives_interval" =>
          isInteger value
      | "keepalives" => (Text.natural? (Nat.pow 2 64) value).isSome
      | "keepalives_retries" => (Text.natural? (Nat.pow 2 32) value).isSome
      | _ => false

/-- The endpoint after a key has been given a value. -/
def set? (endpoint : Endpoint) (key value : Text) : Option Endpoint :=
  match key.toString with
  | "user" => some { endpoint with user := some value }
  | "dbname" => some { endpoint with database := some value }
  | "host" =>
      some { endpoint with hosts := endpoint.hosts ++ Text.partsBetween (· = ',') value }
  | "port" => do
      let ports ← (Text.partsBetween (· = ',') value).mapM port?
      some { endpoint with ports := endpoint.ports ++ ports }
  | _ => if accepts key value then some endpoint else none

/-- A value up to white space, and what follows. A backslash takes the next character as it is. -/
def bareValue : Text → Text × Text
  | [] => ([], [])
  | '\\' :: char :: rest =>
      let (value, after) := bareValue rest
      (char :: value, after)
  | char :: rest =>
      if Alphabet.isBlank char then ([], char :: rest)
      else
        let (value, after) := bareValue rest
        (if char = '\\' then value else char :: value, after)

/-- A value up to a closing quote, and what follows, if the quote is there. -/
def quotedValue? : Text → Option (Text × Text)
  | [] => none
  | '\\' :: char :: rest =>
      (quotedValue? rest).map fun (value, after) => (char :: value, after)
  | '\'' :: rest => some ([], rest)
  | char :: rest =>
      (quotedValue? rest).map fun (value, after) =>
        (if char = '\\' then value else char :: value, after)

/-- A value and what follows. A value without quotes has one character at least. -/
def value? (text : Text) : Option (Text × Text) :=
  match text with
  | '\'' :: rest => quotedValue? rest
  | _ =>
      let (value, after) := bareValue text
      if value.isEmpty then none else some (value, after)

/-- Reads on in words that give values to keys. -/
def ofWordsFrom : Nat → Endpoint → Text → Option Endpoint
  | 0, _, _ => none
  | steps + 1, endpoint, text =>
      let text := text.trimStart
      let isKey (char : Char) : Bool := !Alphabet.isBlank char && char ≠ '='
      let key := text.takeWhile isKey
      if key.isEmpty then some endpoint
      else do
        let after ← Text.dropPrefix? (Text.trimStart (text.dropWhile isKey)) "="
        let (value, rest) ← value? after.trimStart
        ofWordsFrom steps (← endpoint.set? key value) rest

/-- The endpoint that words with values describe. -/
def ofWords? (text : Text) : Option Endpoint :=
  ofWordsFrom (text.length + 1) {} text

/-- The byte that two digits stand for. -/
def byteOfDigits? (high low : UInt8) : Option UInt8 :=
  (Text.ofRadix? 16 [Char.ofNat high.toNat, Char.ofNat low.toNat]).map UInt8.ofNat

/-- The bytes of a text in which a percent sign and two digits stand for a byte. -/
def percentDecoded : List UInt8 → List UInt8
  | [] => []
  | [byte] => [byte]
  | [first, second] => [first, second]
  | byte :: high :: low :: rest =>
      match if byte = 0x25 then byteOfDigits? high low else none with
      | some value => value :: percentDecoded rest
      | none => byte :: percentDecoded (high :: low :: rest)

/-- The bytes that a part of a URL stands for. -/
def decodedBytes (part : Text) : List UInt8 :=
  percentDecoded (Utf8.encode part)

/-- The text that a part of a URL stands for. -/
def decoded? (part : Text) : Option Text :=
  let bytes := decodedBytes part
  let text := Utf8.decode bytes
  if Utf8.encode text = bytes then some text else none

/-- The host that a part of a URL stands for. The path of a socket may hold any bytes. -/
def host? (part : Text) : Option Text :=
  let bytes := decodedBytes part
  if bytes.head? = some 0x2F then some (Utf8.decode bytes) else decoded? part

/-- The text before the first of some characters and the text after it, if there is one. -/
def cut? (separator : Char) (text : Text) : Option (Text × Text) :=
  if text.contains separator then
    some (text.takeWhile (· ≠ separator), (text.dropWhile (· ≠ separator)).drop 1)
  else none

/-- The text before a character and the text after it, or the whole text. -/
def cut (separator : Char) (text : Text) : Text × Option Text :=
  match cut? separator text with
  | some (before, after) => (before, some after)
  | none => (text, none)

/-- A host and its port in a URL, if that is given. Brackets stand around a host with colons. -/
def hostAndPort? (part : Text) : Option (Text × Option Text) :=
  match part with
  | '[' :: rest => do
      let (host, after) ← cut? ']' rest
      match after with
      | [] => some (host, none)
      | ':' :: port => some (host, some port)
      | _ => none
  | _ => some (cut ':' part)

/-- The endpoint after a host of a URL. -/
def addHost? (endpoint : Endpoint) (part : Text) : Option Endpoint := do
  let (host, port) ← hostAndPort? part
  let host ← host? host
  let port ← decoded? (port.getD "5432")
  { endpoint with hosts := endpoint.hosts ++ [host] }.set? "port" port

/-- The endpoint after the pairs of keys and values at the end of a URL. -/
def addPairs? : Nat → Endpoint → Text → Option Endpoint
  | 0, _, _ => none
  | steps + 1, endpoint, text =>
      if text.isEmpty then some endpoint
      else do
        let (key, after) ← cut? '=' text
        let key ← decoded? key
        let (value, rest) := cut '&' after
        let endpoint ←
          if key = "host" then do
            some { endpoint with hosts := endpoint.hosts ++ [← host? value] }
          else endpoint.set? key (← decoded? value)
        addPairs? steps endpoint (rest.getD [])

/-- The endpoint after the user at the beginning of a URL. -/
def addUser? (endpoint : Endpoint) (part : Text) : Option Endpoint := do
  some { endpoint with user := some (← decoded? (cut ':' part).1) }

/-- The endpoint that a URL describes, given what follows its scheme. -/
def ofUrl? (text : Text) : Option Endpoint := do
  let (endpoint, text) ←
    match cut? '@' text with
    | some (user, rest) => do some (← addUser? {} user, rest)
    | none => some ({}, text)
  let isLimit (char : Char) : Bool := char = '/' || char = '?'
  let hosts := text.takeWhile (! isLimit ·)
  let rest := text.dropWhile (! isLimit ·)
  let endpoint ←
    if hosts.isEmpty then some endpoint
    else (Text.partsBetween (· = ',') hosts).foldlM addHost? endpoint
  let (path, pairs) := cut '?' rest
  let database ← decoded? (path.drop 1)
  let endpoint :=
    if database.isEmpty then endpoint else { endpoint with database := some database }
  addPairs? (text.length + 1) endpoint (pairs.getD [])

/-- The endpoint that a connection string describes, if it can be read. -/
def ofText? (text : Text) : Option Endpoint :=
  match text.dropPrefix? "postgres://", text.dropPrefix? "postgresql://" with
  | some rest, _ | none, some rest => ofUrl? rest
  | none, none => ofWords? text

end Endpoint

namespace Settings.Target

/-- The endpoint of a target, possibly with another database. -/
def endpoint (target : Target) (database : Option Text) : Except Failure Endpoint :=
  let configured :=
    match target.url with
    | some url => Endpoint.ofText? url
    | none => some ⟨[target.host], [target.port], some target.database, some target.user⟩
  match configured, database with
  | none, _ => .error (.configuration "Invalid connection string")
  | some endpoint, some database => .ok { endpoint with database := some database }
  | some endpoint, none => .ok endpoint

/-- The endpoint of a target in a message. -/
def describe (target : Target) : Text :=
  match target.endpoint none with
  | .ok endpoint => endpoint.display
  | .error _ => "<invalid connection string>"

end Settings.Target

end DumpTransfer
