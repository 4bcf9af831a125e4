import MessageFlow.Json.Value
import MessageFlow.Manifest.Basic

/-!
# The format of manifests

A manifest is a JSON object of up to three sections: `handlers` and `messages` map names to remarks,
and `observations` lists the records.  Sections and remarks may be missing, also the messages of a
record.  Entries and records may have further members, which mean nothing; the manifest may not.
-/

namespace MessageFlow.Manifest

open Json (Reader Fault)

/-- a remark, which may be null -/
def readRemark : Reader (Option String) := Json.optional (Json.text "a string")

/-! ### entries of the tables -/

/-- the remarks of an entry as far as they are read -/
structure RemarkDraft where
  comment : Option (Option String)
  entryPoint : Option (Option String)

namespace RemarkDraft

def handlerMember (d : RemarkDraft) (name : String) : Reader RemarkDraft := fun cs =>
  match name with
  | "comment" => do
    let (c, rest) ← Json.once "comment" d.comment readRemark cs
    pure ({ d with comment := some c }, rest)
  | "entry_point" => do
    let (e, rest) ← Json.once "entry_point" d.entryPoint readRemark cs
    pure ({ d with entryPoint := some e }, rest)
  | _ => Json.ignore d cs

def messageMember (d : RemarkDraft) (name : String) : Reader RemarkDraft := fun cs =>
  match name with
  | "comment" => do
    let (c, rest) ← Json.once "comment" d.comment readRemark cs
    pure ({ d with comment := some c }, rest)
  | _ => Json.ignore d cs

def handlerEntry (d : RemarkDraft) (name : String) : HandlerEntry :=
  ⟨name, d.comment.join, d.entryPoint.join⟩

def messageEntry (d : RemarkDraft) (name : String) : MessageEntry := ⟨name, d.comment.join⟩

end RemarkDraft

def readHandlerEntry (name : String) : Reader HandlerEntry :=
  Json.fields "struct HandlerInfo" RemarkDraft.handlerMember ⟨none, none⟩
    (fun d => .ok (d.handlerEntry name)) fun cs => do
      let (comment, cs) ← Json.slot true readRemark cs
      let (entryPoint, cs) ← Json.slot false readRemark cs
      pure (⟨name, comment.join, entryPoint.join⟩, cs)

def readMessageEntry (name : String) : Reader MessageEntry :=
  Json.fields "struct MessageInfo" RemarkDraft.messageMember ⟨none, none⟩
    (fun d => .ok (d.messageEntry name)) fun cs => do
      let (comment, cs) ← Json.slot true readRemark cs
      pure (⟨name, comment.join⟩, cs)

def readHandlerTable : Reader HandlerTable :=
  Json.object (fun t name cs => do
    let (e, rest) ← Json.valueOf (readHandlerEntry name) cs
    pure (HandlerTable.set t e, rest)) ∅

def readMessageTable : Reader MessageTable :=
  Json.object (fun t name cs => do
    let (e, rest) ← Json.valueOf (readMessageEntry name) cs
    pure (MessageTable.set t e, rest)) ∅

/-! ### records -/

def kindNamed (name : String) : Except Fault Kind :=
  match Kind.ofLabel? name with
  | some kind => .ok kind
  | none => .error (.unknownVariant name (Kind.all.map Kind.label))

def readKind : Reader Kind := Json.variant kindNamed

def readName : Reader String := Json.text "a string"

def readNames : Reader (List String) := Json.list readName

/-- the fields of a record as far as they are read -/
structure RecordDraft where
  kind : Option Kind
  handler : Option String
  messages : Option (List String)

namespace RecordDraft

def member (d : RecordDraft) (name : String) : Reader RecordDraft := fun cs =>
  match name with
  | "kind" => do
    let (k, rest) ← Json.once "kind" d.kind readKind cs
    pure ({ d with kind := some k }, rest)
  | "handler" => do
    let (h, rest) ← Json.once "handler" d.handler readName cs
    pure ({ d with handler := some h }, rest)
  | "messages" => do
    let (ms, rest) ← Json.once "messages" d.messages readNames cs
    pure ({ d with messages := some ms }, rest)
  | _ => Json.ignore d cs

def finish (d : RecordDraft) : Except Fault Record :=
  match d.kind, d.handler with
  | none, _ => .error (.missingField "kind")
  | _, none => .error (.missingField "handler")
  | some kind, some handler => .ok ⟨kind, handler, d.messages.getD []⟩

end RecordDraft

/-- a list of fields in place of a record is too short -/
def shortRecord (length : Nat) : Fault :=
  .wrongLength length "struct ObservationRecord with 3 elements"

def readRecord : Reader Record :=
  Json.fields "struct ObservationRecord" RecordDraft.member ⟨none, none, none⟩
    RecordDraft.finish fun cs => do
      match ← Json.slot true readKind cs with
      | (none, _) => .error (shortRecord 0)
      | (some kind, cs) =>
        match ← Json.slot false readName cs with
        | (none, _) => .error (shortRecord 1)
        | (some handler, cs) =>
          let (messages, cs) ← Json.slot false readNames cs
          pure (⟨kind, handler, messages.getD []⟩, cs)

/-! ### the whole manifest -/

/-- the sections as far as they are read -/
structure Draft where
  handlers : Option HandlerTable
  messages : Option MessageTable
  records : Option (List Record)

namespace Draft

def sections : List String := ["handlers", "messages", "observations"]

def member (d : Draft) (name : String) : Reader Draft := fun cs =>
  match name with
  | "handlers" => do
    let (t, rest) ← Json.once "handlers" d.handlers readHandlerTable cs
    pure ({ d with handlers := some t }, rest)
  | "messages" => do
    let (t, rest) ← Json.once "messages" d.messages readMessageTable cs
    pure ({ d with messages := some t }, rest)
  | "observations" => do
    let (rs, rest) ← Json.once "observations" d.records (Json.list readRecord) cs
    pure ({ d with records := some rs }, rest)
  | _ => .error (.unknownField name sections)

/-- a section that is not there is empty -/
def finish (d : Draft) : Manifest :=
  ⟨d.handlers.getD ∅, d.messages.getD ∅, d.records.getD []⟩

end Draft

def read : Reader Manifest :=
  Json.fields "struct Manifest" Draft.member ⟨none, none, none⟩ (fun d => .ok d.finish) fun cs => do
    let (handlers, cs) ← Json.slot true readHandlerTable cs
    let (messages, cs) ← Json.slot false readMessageTable cs
    let (records, cs) ← Json.slot false (Json.list readRecord) cs
    pure (Draft.finish ⟨handlers, messages, records⟩, cs)

/-- the manifest that a text spells -/
def ofText (text : String) : Except Fault Manifest := Json.whole read text

end MessageFlow.Manifest
