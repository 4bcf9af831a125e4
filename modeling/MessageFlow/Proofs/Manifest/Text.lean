import MessageFlow.Proofs.Json.Extent
import MessageFlow.Proofs.Manifest.Format
import MessageFlow.Proofs.Manifest.Records

/-!
# What the texts of manifests tell

A text that says a manifest tells the observations of its records, and with another member beside the
sections it tells nothing.  Such a member may stand before the section that it repeats, and then its
own value is read first.  The value may be anything, so this rests on readers that read every value
to its end.

* `names_of_ofText`        a manifest that is read has no member beside its sections, and each once;
* `observations_of_text`   what a text tells, and that it is refused with another member.
-/

namespace MessageFlow.Manifest

open Json (Value Reader Reads Exact ExactBehindKey)

/-! ### the readers read values to their ends -/

theorem exact_remark : Exact readRemark := (Json.exact_text _).optional

theorem exact_handlerEntry (name : String) : Exact (readHandlerEntry name) := by
  refine Json.exact_fields (fun d field => ?_) _ _ _ ?_
  · unfold RemarkDraft.handlerMember
    split
    · exact (exact_remark.once _ _).map fun c => { d with comment := some c }
    · exact (exact_remark.once _ _).map fun e => { d with entryPoint := some e }
    · exact Json.exactBehindKey_ignore d
  · intro cs rest left e ho hr
    obtain ⟨⟨comment, cs⟩, h1, hr⟩ := exists_of_bind_eq_ok hr
    obtain ⟨⟨entryPoint, cs⟩, h2, hr⟩ := exists_of_bind_eq_ok hr
    cases hr
    exact exact_remark.open_of_slot (exact_remark.open_of_slot ho h1) h2

theorem exact_messageEntry (name : String) : Exact (readMessageEntry name) := by
  refine Json.exact_fields (fun d field => ?_) _ _ _ ?_
  · unfold RemarkDraft.messageMember
    split
    · exact (exact_remark.once _ _).map fun c => { d with comment := some c }
    · exact Json.exactBehindKey_ignore d
  · intro cs rest left e ho hr
    obtain ⟨⟨comment, cs⟩, h1, hr⟩ := exists_of_bind_eq_ok hr
    cases hr
    exact exact_remark.open_of_slot ho h1

theorem exact_handlers : Exact readHandlerTable := by
  refine Json.exact_object (fun t name => ?_) ∅
  exact (exact_handlerEntry name).valueOf.map (HandlerTable.set t)

theorem exact_messages : Exact readMessageTable := by
  refine Json.exact_object (fun t name => ?_) ∅
  exact (exact_messageEntry name).valueOf.map (MessageTable.set t)

theorem exact_kind : Exact readKind := Json.exact_variant _

theorem exact_name : Exact readName := Json.exact_text _

theorem exact_names : Exact readNames := exact_name.list

theorem exact_record : Exact readRecord := by
  refine Json.exact_fields (fun d field => ?_) _ _ _ ?_
  · unfold RecordDraft.member
    split
    · exact (exact_kind.once _ _).map fun k => { d with kind := some k }
    · exact (exact_name.once _ _).map fun h => { d with handler := some h }
    · exact (exact_names.once _ _).map fun ms => { d with messages := some ms }
    · exact Json.exactBehindKey_ignore d
  · intro cs rest left r ho hr
    obtain ⟨⟨kind, cs⟩, h1, hr⟩ := exists_of_bind_eq_ok hr
    cases kind with
    | none => cases hr
    | some kind =>
      obtain ⟨⟨handler, cs⟩, h2, hr⟩ := exists_of_bind_eq_ok hr
      cases handler with
      | none => cases hr
      | some handler =>
        obtain ⟨⟨messages, cs⟩, h3, hr⟩ := exists_of_bind_eq_ok hr
        cases hr
        have ho := exact_kind.open_of_slot ho h1
        have ho := exact_name.open_of_slot ho h2
        exact exact_names.open_of_slot ho h3

theorem exactBehindKey_section (d : Draft) (name : String) : ExactBehindKey (d.member name) := by
  unfold Draft.member
  split
  · exact (exact_handlers.once _ _).map fun t => { d with handlers := some t }
  · exact (exact_messages.once _ _).map fun t => { d with messages := some t }
  · exact (exact_record.list.once _ _).map fun rs => { d with records := some rs }
  · intro v before after cs rest _ _ _ _ _ _ h
    cases h

/-! ### members beside the sections -/

/-- the section of that name has been read -/
def Draft.Has (d : Draft) (name : String) : Prop :=
  name = "handlers" ∧ d.handlers.isSome ∨ name = "messages" ∧ d.messages.isSome
    ∨ name = "observations" ∧ d.records.isSome

/-- a section that is read was not there before, and goes into the draft -/
theorem of_once_bind {α : Type} {read : Reader α} {name : String} {o : Option α}
    {cs left : List Char} (put : α → Draft) {d : Draft}
    (h : (do let (a, rest) ← Json.once name o read cs; pure (put a, rest)) = .ok (d, left)) :
    o = none ∧ ∃ a, d = put a := by
  obtain ⟨⟨a, _⟩, hread, h⟩ := exists_of_bind_eq_ok h
  cases h
  cases o with
  | none => exact ⟨rfl, a, rfl⟩
  | some => cases hread

/-- a member that is read is a section that was not read before -/
theorem Draft.member_eq_ok {d d' : Draft} {name : String} {cs left : List Char}
    (h : d.member name cs = .ok (d', left)) : name ∈ Draft.sections ∧ ¬ d.Has name
      ∧ ∀ n, d'.Has n ↔ n = name ∨ d.Has n := by
  unfold Draft.member at h
  split at h
  · obtain ⟨habsent, _, rfl⟩ := of_once_bind (fun t => { d with handlers := some t }) h
    exact ⟨by decide, by grind [Has], by grind [Has]⟩
  · obtain ⟨habsent, _, rfl⟩ := of_once_bind (fun t => { d with messages := some t }) h
    exact ⟨by decide, by grind [Has], by grind [Has]⟩
  · obtain ⟨habsent, _, rfl⟩ := of_once_bind (fun t => { d with records := some t }) h
    exact ⟨by decide, by grind [Has], by grind [Has]⟩
  · cases h

theorem Draft.names_of_steps {d last : Draft} {names : List String}
    (h : Json.Steps member d names last) :
    names.Nodup ∧ ∀ n ∈ names, n ∈ sections ∧ ¬ d.Has n := by
  induction h with
  | nil d => exact ⟨.nil, nofun⟩
  | @cons d next last name names cs left h _ ih =>
    obtain ⟨h1, h2, h3⟩ := member_eq_ok h
    obtain ⟨hd, hn⟩ := ih
    constructor
    · exact List.nodup_cons.mpr ⟨fun hm => (hn name hm).2 ((h3 name).mpr (.inl rfl)), hd⟩
    · refine List.forall_mem_cons.mpr ⟨⟨h1, h2⟩, fun n hm => ?_⟩
      obtain ⟨h4, h5⟩ := hn n hm
      exact ⟨h4, fun hd => h5 ((h3 n).mpr (.inr hd))⟩

/-- **A manifest that is read has no member beside its sections**, and each of these once -/
theorem names_of_ofText {text : String} {ms : List (String × Value)}
    (ht : Json.Denotes text (.ofMembers ms)) {m : Manifest} (h : ofText text = .ok m) :
    (ms.map Prod.fst).Nodup ∧ ∀ n ∈ ms.map Prod.fst, n ∈ Draft.sections := by
  obtain @⟨before, cs, after, hb, hs, ha, ht⟩ := ht
  rw [ofText, Json.whole, ht, List.append_assoc] at h
  obtain ⟨⟨m', left⟩, h1, -⟩ := exists_of_bind_eq_ok h
  obtain ⟨last, h2, -⟩ := Json.steps_of_fields exactBehindKey_section hb hs h1
  obtain ⟨hd, hn⟩ := Draft.names_of_steps h2
  exact ⟨hd, fun n hm => (hn n hm).1⟩

theorem error_of_repeated {before after : List (String × Value)} {name : String} {v : Value}
    (hname : ∃ p ∈ before ++ after, p.1 = name) {text : String}
    (ht : Json.Denotes text (.ofMembers (before ++ (name, v) :: after))) :
    ∃ fault, ofText text = .error fault := by
  cases hr : ofText text with
  | error fault => exact ⟨fault, rfl⟩
  | ok m =>
    obtain ⟨p, hp, rfl⟩ := hname
    have h1 := (names_of_ofText ht hr).1
    rw [List.map_append, List.map_cons, List.nodup_middle, List.nodup_cons, ← List.map_append] at h1
    exact absurd (List.mem_map_of_mem hp) h1.1

/-! ### what a text tells -/

/-- what a table tells of a name, unless it is blank -/
def remarkOn {α : Type} {name : α → String} (t : Roster name) (text : α → Option String)
    (n : String) : Option String :=
  (t.find? n).bind fun e => (text e).filter fun t => !Text.blank t

/-- what a record shows, with the remarks of the tables -/
def shown (m : Manifest) (depth : Nat) (r : Record) : Sighting where
  kind := r.kind
  handler := ⟨r.handler, Name.moduleKey depth r.handler,
    remarkOn m.handlers HandlerEntry.comment r.handler,
    remarkOn m.handlers HandlerEntry.entryPoint r.handler⟩
  messages := r.messages.map fun k => ⟨k, remarkOn m.messages MessageEntry.comment k⟩

theorem sighting_eq_shown (m : Manifest) (depth : Nat) (r : Record) :
    m.sighting depth r = m.shown depth r := by
  have h1 : m.message = fun k => ⟨k, remarkOn m.messages MessageEntry.comment k⟩ := by
    funext k
    simp only [message_eq, messageComment?, remarkOn, bind_remark_eq_filter]
  rw [sighting, shown, handler_eq, h1]
  simp only [comment?, entryPoint?, remarkOn, bind_remark_eq_filter]

/-- **A manifest is read as it is written.**  Every text that spells the tables and records of a
manifest, in whatever order, with whatever white space and escapes, with empty parts or without them,
and with further members in entries and records, tells the observations that the records show.  With
a further member beside the sections, wherever and whatever it is, the text is refused: for the name
of that member, or because a section is repeated. -/
theorem observations_of_text {m : Manifest} {ms : List (String × Value)} (h : Sections m ms)
    (depth : Nat) :
    (∀ text, Json.Denotes text (.ofMembers ms) → (ofText text).map (·.observations depth) =
      .ok (ObservationSet.ofSightings (m.records.map (m.shown depth))))
    ∧ ∀ before after, ms = before ++ after → ∀ name v,
      (name ∈ ["handlers", "messages", "observations"] → ∃ p ∈ ms, p.1 = name) →
      ∀ text, Json.Denotes text (.ofMembers (before ++ (name, v) :: after)) →
        ∃ fault, ofText text = .error fault
          ∧ (name ∉ ["handlers", "messages", "observations"] →
            fault = .unknownField name ["handlers", "messages", "observations"])
          ∧ ((∃ p ∈ before, p.1 = name) → fault = .duplicateField name) := by
  refine ⟨fun text ht => ?_, ?_⟩
  · have h1 : m.observations depth = .ofSightings (m.records.map (m.shown depth)) := by
      rw [observations_eq, List.map_congr_left fun r _ => sighting_eq_shown m depth r]
    rw [ofText, h.reads.whole ht, ← h1]
    rfl
  · rintro before after rfl name v hname text ht
    by_cases hn : name ∈ Draft.sections
    · by_cases hb : ∃ p ∈ before, p.1 = name
      · have h1 := (h.refuses (fun _ => hb) v).whole ht
        rw [if_pos hn] at h1
        exact ⟨_, h1, fun h => absurd hn h, fun _ => rfl⟩
      · -- what is read of the member itself may already be refused
        obtain ⟨fault, h1⟩ := error_of_repeated (hname hn) ht
        exact ⟨fault, h1, fun h => absurd hn h, fun h => absurd h hb⟩
    · have h1 := (h.refuses (fun h => absurd h hn) v).whole ht
      rw [if_neg hn] at h1
      refine ⟨_, h1, fun _ => rfl, ?_⟩
      rintro ⟨p, hp, rfl⟩
      exact absurd (h.mem_sections p (List.mem_append_left after hp)) hn

/-- one record of a handler with a comment and a note, and no section of messages -/
def noted : Manifest := ⟨HandlerTable.set ∅ ⟨"A", some "c", none⟩, ∅, [⟨.sender, "A", []⟩]⟩

def notedMembers : List (String × Value) :=
  [("handlers",
      .ofMembers [("A", .ofMembers [("note", .list [.object []]), ("comment", .ofText "c")])]),
    ("observations", .list [.ofMembers [("handler", .ofText "A"), ("kind", .ofText "sender")]])]

def notedText : String :=
  "\x7b\"handlers\":\x7b\"A\":\x7b\"note\":[\x7b\x7d],\"comment\":\"c\"\x7d\x7d,\n"
    ++ "\"observations\":[\x7b\"handler\":\"\\u0041\",\"kind\":\"sender\"\x7d]\x7d"

theorem sections_noted : Sections noted notedMembers where
  handlers := .present (.mk (.cons (.mk (.present (.text "c")) (.missing rfl)) .nil) (.refl _))
  messages := .missing rfl
  records := .present (.mk (.cons (.mk (.present (.mk .sender)) (.present (.mk "A")) (.missing rfl))
    .nil))
  names := by decide

theorem denotes_notedText : Json.Denotes notedText (.ofMembers notedMembers) := by
  have hnote : Json.Spells (.list [.object []]) _ := .list (.full (.compact (.object (.empty .nil))))
  have hentry : Json.Spells
      (.ofMembers [("note", .list [.object []]), ("comment", .ofText "c")]) _ :=
    .object (.full (.compact_cons (.compact (.plain "note" (by decide)) hnote)
      (.compact (.compact (.plain "comment" (by decide)) (.text (.plain "c" (by decide)))))))
  have hhandlers : Json.Spells (.ofMembers [("A", .ofMembers [("note", .list [.object []]),
      ("comment", .ofText "c")])]) _ :=
    .object (.full (.compact (.compact (.plain "A" (by decide)) hentry)))
  have hcode : Json.SpellsCode 'A'.toNat ['0', '0', '4', '1'] :=
    .mk (a := 0) (b := 0) (c := 4) (d := 1) (by decide) (by decide) (by decide) (by decide)
  have hrecord : Json.Spells
      (.ofMembers [("handler", .ofText "A"), ("kind", .ofText "sender")]) _ :=
    .object (.full (.compact_cons
      (.compact (.plain "handler" (by decide)) (.text (.mk (.cons (.code hcode) .nil))))
      (.compact (.compact (.plain "kind" (by decide)) (.text (.plain "sender" (by decide)))))))
  have hrecords : Json.Spells
      (.list [.ofMembers [("handler", .ofText "A"), ("kind", .ofText "sender")]]) _ :=
    .list (.full (.compact hrecord))
  have hline : Json.IsGap ['\n'] := by decide
  have hwhole : Json.Spells (.ofMembers notedMembers) _ :=
    .object (.full (.compact_cons (.compact (.plain "handlers" (by decide)) hhandlers)
      (.single hline (.compact (.plain "observations" (by decide)) hrecords) .nil)))
  exact .mk .nil hwhole .nil (by decide +kernel)

def versionText : String := "\x7b\"version\": null\x7d"

theorem denotes_versionText :
    Json.Denotes versionText (.ofMembers ([] ++ ("version", .null) :: [])) := by
  have hspace : Json.IsGap [' '] := by decide
  have hwhole : Json.Spells (.ofMembers [("version", .null)]) _ :=
    .object (.full (.compact (.mk (.plain "version" (by decide)) .nil hspace .null)))
  exact .mk .nil hwhole .nil (by decide +kernel)

theorem observations_of_text_noted :
    Sections noted notedMembers ∧ Json.Denotes notedText (.ofMembers notedMembers)
    ∧ (ofText notedText).map (·.observations 3) =
      .ok (.ofSightings [⟨.sender, ⟨"A", "A", some "c", none⟩, []⟩])
    ∧ Sections ∅ [] ∧ Json.Denotes versionText (.ofMembers ([] ++ ("version", .null) :: []))
    ∧ ofText versionText =
      .error (.unknownField "version" ["handlers", "messages", "observations"]) := by
  have hempty : Sections ∅ [] := ⟨.missing rfl, .missing rfl, .missing rfl, nofun⟩
  have h1 := (observations_of_text sections_noted 3).1 notedText denotes_notedText
  obtain ⟨fault, h2, h3, -⟩ := (observations_of_text hempty 3).2 [] [] rfl "version" .null
    (by decide) versionText denotes_versionText
  rw [h3 (by decide)] at h2
  exact ⟨sections_noted, denotes_notedText, h1, hempty, denotes_versionText, h2⟩

end MessageFlow.Manifest
