import HomeAutomation.Lib.Hex
import HomeAutomation.Lib.OrderedMap
import HomeAutomation.Lib.Str
import HomeAutomation.Util.Outcome
import Mathlib.Data.Char
import Mathlib.Data.List.Lex

/-!
# Packets and their text form

The three packets of the wire protocol, each with the line it is written as and
the parser that reads such a line.  A parser is a member function of an object
that it overwrites field by field, so `deserialize` takes the object and returns
it together with the outcome: what is already assigned when the parser throws
stays assigned.

## Main definitions

* `Message`, `DeviceInit`, `ServiceCommand` — the packets.
* `Message.serialize`, `Message.deserialize` and their siblings — the line
  format, written and read.
* `ServiceCommand.addArgument`, `ServiceCommand.getArgument` and their variants —
  the typed arguments.
* `Packet.create` — the parser for an arbitrary line.

## References

`common/source/proto/Message.cpp`, `common/include/proto/Message.h`.
-/

namespace HomeAutomation

open Hex Str

/-! ### Device messages -/

/-- `Message::Type`. -/
inductive MessageType
  | request
  | data
  deriving DecidableEq, Repr

/-- The body of a message: `DH_VERIFY( body_.size() <= 8 )` guards every way to
set it. -/
abbrev Body := { b : List UInt8 // b.length ≤ 8 }

/-- The empty body. -/
def Body.nil : Body := ⟨[], by decide⟩

/-- A body of one byte. -/
def Body.single (byte : UInt8) : Body := ⟨[byte], by simp⟩

/-- A request to a device or a value from one. -/
structure Message where
  type : MessageType
  deviceId : UInt8
  address : UInt16
  body : Body
  deriving DecidableEq

namespace Message

/-- `Message()`, with its default arguments. -/
def default : Message := ⟨.data, 0, 0, Body.nil⟩

/-- `is_request`. -/
def isRequest (m : Message) : Bool := m.type = .request

/-- The bytes of a body, two digits each. -/
def bodyText (body : List UInt8) : Text := body.flatMap fun b => hexPad 2 b.toNat

/-- `Message::serialize`. -/
def serialize (m : Message) : Text :=
  "dev:".toList ++ hexPad 2 m.deviceId.toNat ++ "  ".toList
    ++ "addr:".toList ++ hexPad 4 m.address.toNat ++ "  ".toList
    ++ match m.type with
      | .data => ':' :: bodyText m.body
      | .request => ['?']

/-- `n` bytes of a body, two digits each, from position `pos` on. -/
def readBytes (data : Text) (pos n : ℕ) : List UInt8 :=
  (List.range n).map fun i => UInt8.ofNat (istreamHex 32 (substr data (pos + i * 2) 2)).2

theorem length_readBytes (data : Text) (pos n : ℕ) : (readBytes data pos n).length = n := by
  simp [readBytes]

/-- A body that passed the checks has room. -/
theorem length_readBytes_le {data : Text} {pos n : ℕ} (h : ¬ (n % 2 ≠ 0 ∨ n / 2 > 8)) :
    (readBytes data pos (n / 2)).length ≤ 8 := by
  rw [length_readBytes]
  omega

/-- `Message::deserialize`: the object as it is left, and the outcome. -/
def deserialize (m : Message) (data : Text) : Message × Except Exception Unit :=
  match find "dev:".toList data 0 with
  | none => (m, .error (.invalidArgument "message format error: no device id field"))
  | some pos =>
    let m := { m with deviceId := UInt8.ofNat (istreamHex 32 (substr data (pos + 4) 2)).2 }
    match find "addr:".toList data (pos + 4) with
    | none => (m, .error (.invalidArgument "message format error: no address field"))
    | some pos =>
      -- the number is read into the member itself
      let m := { m with
        address := UInt16.ofNat (istreamHexOnto 16 (substr data (pos + 5) 4) m.address.toNat) }
      match findFirstOf (fun c => c == '?' || c == ':') data (pos + 5 + 4) with
      | none => (m, .error (.invalidArgument "message format error: no body field"))
      | some pos =>
        let m := { m with body := Body.nil }
        if data[pos]? = some '?' then ({ m with type := .request }, .ok ())
        else
          let m := { m with type := .data }
          let pos := pos + 1
          let stop := (findFirstNotOf isHex data pos).getD data.length
          let bodylen := stop - pos
          if h : bodylen % 2 ≠ 0 ∨ bodylen / 2 > 8 then
            (m, .error (.invalidArgument "message format error: invalid body length"))
          else
            ({ m with body := ⟨readBytes data pos (bodylen / 2), length_readBytes_le h⟩ }, .ok ())

end Message

/-! ### Device initialisation -/

/-- The packet that programs a device id. -/
structure DeviceInit where
  newId : UInt8
  oldId : UInt8
  deriving DecidableEq, Repr

namespace DeviceInit

/-- `DeviceInit()`, with its default arguments. -/
def default : DeviceInit := ⟨0xff, 0xff⟩

/-- `DeviceInit::serialize`.  The field width is set once and applies to the
first number only. -/
def serialize (p : DeviceInit) : Text :=
  "dev-q:".toList ++ hexPad 2 p.oldId.toNat ++ hexPad 0 p.newId.toNat

/-- `DeviceInit::deserialize`.  The second argument of `substr` is a length. -/
def deserialize (p : DeviceInit) (data : Text) : DeviceInit × Except Exception Unit :=
  if find "dev-q:".toList data 0 ≠ some 0 then
    (p, .error (.invalidArgument "device init format error: dev-q not found"))
  else
    let msg := substr data 6 (6 + 4)
    if msg.length ≠ 4 ∨ findFirstNotOf isHex msg 0 ≠ none then
      (p, .error (.invalidArgument "device init format error: dev-q body error"))
    else
      ({ oldId := UInt8.ofNat (istreamHex 32 (substr msg 0 2)).2
         newId := UInt8.ofNat (istreamHex 32 (substr msg 2 2)).2 }, .ok ())

end DeviceInit

/-! ### Service commands -/

/-- The characters of names, keys and values. -/
def isWordChar (c : Char) : Bool := c.isAlphanum || c == '_' || c == '-'

/-- `check_string`. -/
def checkString (s : Text) : Bool := findFirstNotOf isWordChar s 0 = none

theorem checkString_iff {s : Text} : checkString s = true ↔ ∀ c ∈ s, isWordChar c = true := by
  rw [checkString, decide_eq_true_eq, findFirstNotOf, findFirstOf_zero_eq_none_iff]
  simp

/-- `ServiceCommand::Arguments`. -/
abbrev Arguments := OrderedMap Text Text

/-- A command between a client and the router. -/
structure ServiceCommand where
  action : Text
  arguments : Arguments
  deriving DecidableEq

/-- The separators of a command line, `" \t"`. -/
def isBlank (c : Char) : Bool := c == ' ' || c == '\t'

namespace ServiceCommand

/-- `ServiceCommand(action)`. -/
def create (action : Text) : Except Fault ServiceCommand := do
  verify (checkString action)
  return ⟨action, .empty⟩

/-- `set_action`. -/
def setAction (c : ServiceCommand) (value : Text) : Except Fault ServiceCommand := do
  verify (checkString value)
  return { c with action := value }

/-- `add_argument(key, string)`. -/
def addArgument (c : ServiceCommand) (key value : Text) : Except Fault ServiceCommand := do
  verify (checkString key)
  verify (key ≠ "cmd".toList)
  verify (checkString value)
  return { c with arguments := c.arguments.insert key value }

theorem create_eq {action : Text} (h : checkString action = true) :
    create action = .ok ⟨action, .empty⟩ := by
  rw [create, h]
  rfl

theorem addArgument_eq {key value : Text} (hkey : checkString key = true)
    (hcmd : key ≠ "cmd".toList) (hvalue : checkString value = true) (c : ServiceCommand) :
    c.addArgument key value = .ok { c with arguments := c.arguments.insert key value } := by
  rw [addArgument, hkey, decide_eq_true hcmd, hvalue]
  rfl

/-- A value that is no word stops the program. -/
theorem addArgument_eq_error {value : Text} (hvalue : checkString value = false)
    (c : ServiceCommand) (key : Text) : c.addArgument key value = .error .assertion := by
  rw [addArgument, hvalue]
  cases checkString key with
  | false => rfl
  | true =>
    cases decide (key ≠ "cmd".toList) with
    | false => rfl
    | true => rfl

/-- The text of an unsigned argument. -/
def unsignedText (value : UInt32) : Text :=
  hexPad (if value.toNat < 256 then 2 else if value.toNat < 256 * 256 then 4 else 8) value.toNat

/-- `add_argument(key, unsigned)`. -/
def addArgumentUnsigned (c : ServiceCommand) (key : Text) (value : UInt32) :
    Except Fault ServiceCommand :=
  c.addArgument key (unsignedText value)

/-- `add_raw_argument`. -/
def addRawArgument (c : ServiceCommand) (key : Text) (value : List UInt8) :
    Except Fault ServiceCommand :=
  c.addArgument key (Message.bodyText value)

/-- `get_argument(key)`, whose default is the empty string. -/
def getArgument (c : ServiceCommand) (key : Text) : Text := (c.arguments.find key).getD []

/-- `get_argument(key, default_value)` for a number.  `bad()` is never set by a
failed conversion, so the value stored by the failed conversion is returned. -/
def getArgumentUnsigned (c : ServiceCommand) (key : Text) (defaultValue : UInt32) : UInt32 :=
  let s := c.getArgument key
  if s = [] then defaultValue else UInt32.ofNat (istreamHex 32 s).2

/-- `get_raw_argument`: the bytes, when it returns true. -/
def getRawArgument (c : ServiceCommand) (key : Text) : Option (List UInt8) :=
  let s := c.getArgument key
  if s = [] ∨ s.length % 2 ≠ 0 ∨ findFirstNotOf isHex s 0 ≠ none then none
  else some (Message.readBytes s 0 (s.length / 2))

/-- Raw bytes are there when the argument is, and consists of pairs of digits. -/
theorem isSome_getRawArgument_iff {c : ServiceCommand} {key : Text} :
    (c.getRawArgument key).isSome = true ↔ c.getArgument key ≠ [] ∧
      (c.getArgument key).length % 2 = 0 ∧ ∀ x ∈ c.getArgument key, isHex x = true := by
  have hhex : findFirstNotOf isHex (c.getArgument key) 0 = none ↔
      ∀ x ∈ c.getArgument key, isHex x = true := by
    rw [findFirstNotOf, findFirstOf_zero_eq_none_iff]
    simp
  rw [← hhex, getRawArgument]
  split
  · next h => exact iff_of_false Bool.false_ne_true fun hdata => by simp [hdata] at h
  · next h => exact iff_of_true rfl (by simpa using h)

/-- One argument of the line. -/
def argumentText (e : Text × Text) : Text := ' ' :: (e.1 ++ ':' :: e.2)

/-- `ServiceCommand::serialize`. -/
def serialize (c : ServiceCommand) : Except Fault Text := do
  verify (!c.action.isEmpty)
  return "cmd:".toList ++ c.action ++ c.arguments.entries.flatMap argumentText

/-- The loop of `ServiceCommand::deserialize` from position `argEnd` on.  Every
turn moves `argEnd` forward, so the number of turns is bounded by the number of
characters left. -/
def deserializeArguments (data : Text) : ℕ → ℕ → Arguments → Except Exception Arguments
  | 0, _, args => .ok args
  | fuel + 1, argEnd, args =>
    if data.length ≤ argEnd then .ok args
    else
      match findFirstNotOf isBlank data argEnd with
      | none => .ok args
      | some argBegin =>
        let argEnd := (findFirstOf isBlank data argBegin).getD data.length
        match findFirstOf (· == ':') data argBegin with
        | none =>
          .error (.invalidArgument "service command format error: argument syntax error")
        | some sep =>
          if argEnd < sep then
            .error (.invalidArgument "service command format error: argument syntax error")
          else
            let key := substr data argBegin (sep - argBegin)
            let value := substr data (sep + 1) (argEnd - sep - 1)
            if key = [] ∨ checkString key = false ∨ checkString value = false then
              .error (.invalidArgument "service command format error: wrong argument field")
            else deserializeArguments data fuel argEnd (args.insert key value)

/-- `ServiceCommand::deserialize`.  The object is assigned only at the end. -/
def deserialize (c : ServiceCommand) (data : Text) : ServiceCommand × Except Exception Unit :=
  if data.length < 4 ∨ substr data 0 4 ≠ "cmd:".toList then
    (c, .error (.invalidArgument "service command format error: cmd field expected"))
  else
    let argEnd := (findFirstOf isBlank data 4).getD data.length
    let newAction := substr data 4 (argEnd - 4)
    if newAction = [] ∨ checkString newAction = false then
      (c, .error (.invalidArgument "service command format error: wrong cmd field"))
    else
      match deserializeArguments data (data.length - argEnd) argEnd .empty with
      | .error e => (c, .error e)
      | .ok newArguments => (⟨newAction, newArguments⟩, .ok ())

end ServiceCommand

/-! ### Any packet -/

/-- A packet of one of the three kinds. -/
inductive Packet
  | message (m : Message)
  | deviceInit (p : DeviceInit)
  | serviceCommand (c : ServiceCommand)
  deriving DecidableEq

namespace Packet

/-- `convert_to_string`. -/
def convertToString : Packet → Except Fault Text
  | .message m => .ok m.serialize
  | .deviceInit p => .ok p.serialize
  | .serviceCommand c => c.serialize

/-- What a parser leaves behind when it returns. -/
def ofOutcome {α : Type} (wrap : α → Packet) : α × Except Exception Unit → Except Exception Packet
  | (a, .ok ()) => .ok (wrap a)
  | (_, .error e) => .error e

/-- `Packet::create`. -/
def create (line : Text) : Except Exception Packet :=
  if find "dev-q:".toList line 0 = some 0 then
    ofOutcome .deviceInit (DeviceInit.default.deserialize line)
  else if find "cmd:".toList line 0 = some 0 then
    ofOutcome .serviceCommand (ServiceCommand.deserialize ⟨[], .empty⟩ line)
  else ofOutcome .message (Message.default.deserialize line)

end Packet
end HomeAutomation
