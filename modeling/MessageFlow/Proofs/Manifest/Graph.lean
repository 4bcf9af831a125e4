import MessageFlow.Proofs.Graph.Join
import MessageFlow.Proofs.Manifest.Records
import MessageFlow.Proofs.Name

/-!
# The graph of several manifests

What a directory of manifests means can be read off the manifests one by one.

* `mem_vertices_ofManifest`, `mem_keys_ofManifest`, `message_of_mem_flows_ofManifest`   the graph of
  one manifest in terms of its records and its tables;
* `graph_of_manifests`   the graph of several manifests in terms of theirs.
-/

namespace MessageFlow.Analysis

section
variable {m : Manifest} {depth : Nat}

theorem graph_ofManifest : (ofManifest depth m).graph =
    Graph.join ((m.observations depth).onSide .producing)
      ((m.observations depth).onSide .consuming) :=
  rfl

/-- the handler that both sides together know, if a record of either side names it -/
theorem known?_onSide (h : String) :
    ((m.observations depth).onSide .producing).known? ((m.observations depth).onSide .consuming) h =
      if ∃ r ∈ m.records, r.handler = h then some (m.handler depth h) else none := by
  have h1 : ∀ s, (((m.observations depth).onSide s).find? h).map Observed.handler =
      if (s, h) ∈ Record.sides m.records then some (m.handler depth h) else none := by
    intro s
    apply Option.ext
    intro v
    rw [Manifest.handler_onSide]
    by_cases hs : (s, h) ∈ Record.sides m.records
    · simp [hs, eq_comm]
    · simp [hs]
  have h2 : (∃ r ∈ m.records, r.handler = h) ↔
      (Side.producing, h) ∈ Record.sides m.records
        ∨ (Side.consuming, h) ∈ Record.sides m.records := by
    simp only [Record.mem_sides]
    constructor
    · rintro ⟨r, hr, hn⟩
      cases hs : r.kind.side with
      | producing => exact .inl ⟨r, hr, hs, hn⟩
      | consuming => exact .inr ⟨r, hr, hs, hn⟩
    · rintro (⟨r, hr, -, hn⟩ | ⟨r, hr, -, hn⟩) <;> exact ⟨r, hr, hn⟩
  rw [ObservationMap.known?_eq, h1, h1, if_congr h2 rfl rfl]
  by_cases hp : (Side.producing, h) ∈ Record.sides m.records <;>
    by_cases hc : (Side.consuming, h) ∈ Record.sides m.records <;>
    simp [hp, hc, Handler.absorb_self]

/-- the handlers of the records are the vertices, with the remarks of the tables -/
theorem mem_vertices_ofManifest {v : Handler} :
    v ∈ (ofManifest depth m).graph.vertices ↔
      v = m.handler depth v.name ∧ ∃ r ∈ m.records, r.handler = v.name := by
  rw [graph_ofManifest, Graph.vertices_join, ObservationMap.mem_handlers_merge_iff, known?_onSide]
  by_cases hr : ∃ r ∈ m.records, r.handler = v.name
  · rw [if_pos hr, Option.some_inj, eq_comm]
    exact ⟨fun hv => ⟨hv, hr⟩, fun hv => hv.1⟩
  · rw [if_neg hr]
    exact ⟨fun hv => absurd hv nofun, fun hv => absurd hv.2 hr⟩

theorem mem_names_ofManifest {h : String} :
    h ∈ (ofManifest depth m).graph.vertices.map Handler.name ↔ ∃ r ∈ m.records, r.handler = h := by
  rw [List.mem_map]
  constructor
  · rintro ⟨v, hv, rfl⟩
    exact (mem_vertices_ofManifest.mp hv).2
  · intro hr
    have h1 := m.name_handler depth h
    exact ⟨m.handler depth h, mem_vertices_ofManifest.mpr ⟨by rw [h1], by rwa [h1]⟩, h1⟩

/-- a flow leads from each handler that produces a message to each that consumes it -/
theorem mem_keys_ofManifest {p c k : String} :
    (p, c, k) ∈ (ofManifest depth m).graph.flows.map Flow.key ↔
      (Side.producing, p, k) ∈ Record.exchanges m.records
      ∧ (Side.consuming, c, k) ∈ Record.exchanges m.records := by
  simp only [graph_ofManifest, Graph.mem_keys_join, Manifest.message?_onSide, exists_eq_left]

/-- the message of a flow has the remark of the table -/
theorem message_of_mem_flows_ofManifest {f : Flow} (hf : f ∈ (ofManifest depth m).graph.flows) :
    f.message = m.message f.message.name := by
  have h1 : f.key ∈ (ofManifest depth m).graph.flows.map Flow.key := List.mem_map_of_mem hf
  obtain ⟨hp, hc⟩ := mem_keys_ofManifest.mp h1
  have h2 := Graph.message_of_mem_flows_join _ _ hf
    ((m.message?_onSide depth).mpr ⟨rfl, hp⟩) ((m.message?_onSide depth).mpr ⟨rfl, hc⟩)
  rwa [Message.absorb_self] at h2

end

/-! ### several manifests -/

open Manifest (combine firstText)

theorem mem_records_combine {ms : List Manifest} {r : Record} :
    r ∈ (combine ms).records ↔ ∃ m ∈ ms, r ∈ m.records := by
  rw [Manifest.records_combine, List.mem_flatMap]

/-- the records of several manifests that satisfy something -/
theorem exists_record_combine {ms : List Manifest} {q : Record → Prop} :
    (∃ r ∈ (combine ms).records, q r) ↔ ∃ m ∈ ms, ∃ r ∈ m.records, q r := by
  constructor
  · rintro ⟨r, hr, hq⟩
    obtain ⟨m, hm, hr⟩ := mem_records_combine.mp hr
    exact ⟨m, hm, r, hr, hq⟩
  · rintro ⟨m, hm, r, hr, hq⟩
    exact ⟨r, mem_records_combine.mpr ⟨m, hm, hr⟩, hq⟩

theorem mem_exchanges_combine {ms : List Manifest} {s : Side} {h k : String} :
    (s, h, k) ∈ Record.exchanges (combine ms).records ↔
      ∃ m ∈ ms, ∃ r ∈ m.records, r.kind ∈ s.kinds ∧ r.handler = h ∧ k ∈ r.messages := by
  rw [Record.mem_exchanges, exists_record_combine]
  simp only [Side.mem_kinds]

/-- manifests with the same records and the same first remarks, spread over them in another way, have
the same analysis -/
theorem ofManifest_combine_eq {ms ns : List Manifest} (depth : Nat)
    (hr : ∀ r, (∃ m ∈ ns, r ∈ m.records) ↔ ∃ m ∈ ms, r ∈ m.records)
    (hh : ∀ h, (combine ns).handler depth h = (combine ms).handler depth h)
    (hk : ∀ k, (combine ns).message k = (combine ms).message k) :
    ofManifest depth (combine ns) = ofManifest depth (combine ms) := by
  have h1 : ∀ r, r ∈ (combine ns).records ↔ r ∈ (combine ms).records := by
    intro r
    rw [mem_records_combine, mem_records_combine, hr]
  apply ofManifest_eq_of_facts hh hk
  · rintro ⟨s, h⟩
    simp only [Record.mem_sides, h1]
  · rintro ⟨s, h, k⟩
    simp only [Record.mem_exchanges, h1]

/-- **What a directory of manifests means.**  The vertices of the graph are the handlers that some
record of some manifest names, each with the first `max depth 1` segments of its name as its module
and, as its comment and its entry point, the first text of the handler tables that is not blank.  A
flow of `k` leads from `p` to `c` if some record of a producing kind has `p` with `k` and some record
of a consuming kind has `c` with `k`; its comment is the first one for `k` in the message tables that
is not blank.  So the records and the entries may as well stand in other manifests, as long as no
first text changes. -/
theorem graph_of_manifests (ms : List Manifest) (depth : Nat) :
    let g := (ofManifest depth (combine ms)).graph
    g.WellFormed
    ∧ (∀ h, h ∈ g.vertices.map Handler.name ↔ ∃ m ∈ ms, ∃ r ∈ m.records, r.handler = h)
    ∧ (∀ v ∈ g.vertices,
        v.moduleKey.toList = List.intercalate ['.'] ((v.name.toList.splitOn '.').take (max depth 1))
        ∧ v.comment = firstText ms (fun m => (m.handlers.find? v.name).bind HandlerEntry.comment)
        ∧ v.entryPoint =
            firstText ms (fun m => (m.handlers.find? v.name).bind HandlerEntry.entryPoint))
    ∧ (∀ p c k, (p, c, k) ∈ g.flows.map Flow.key ↔
        (∃ m ∈ ms, ∃ r ∈ m.records, r.kind ∈ Kind.producers ∧ r.handler = p ∧ k ∈ r.messages)
        ∧ ∃ m ∈ ms, ∃ r ∈ m.records, r.kind ∈ Kind.consumers ∧ r.handler = c ∧ k ∈ r.messages)
    ∧ (∀ f ∈ g.flows, f.message.comment =
        firstText ms (fun m => (m.messages.find? f.message.name).bind MessageEntry.comment))
    ∧ (∀ f ∈ g.flows, ∀ f' ∈ g.flows, f.message.name = f'.message.name → f.message = f'.message)
    ∧ g.flows.length = g.edges.length
    ∧ (∀ ns : List Manifest, (∀ r, (∃ m ∈ ns, r ∈ m.records) ↔ ∃ m ∈ ms, r ∈ m.records) →
        (∀ h, firstText ns (fun m => (m.handlers.find? h).bind HandlerEntry.comment) =
          firstText ms (fun m => (m.handlers.find? h).bind HandlerEntry.comment)) →
        (∀ h, firstText ns (fun m => (m.handlers.find? h).bind HandlerEntry.entryPoint) =
          firstText ms (fun m => (m.handlers.find? h).bind HandlerEntry.entryPoint)) →
        (∀ k, firstText ns (fun m => (m.messages.find? k).bind MessageEntry.comment) =
          firstText ms (fun m => (m.messages.find? k).bind MessageEntry.comment)) →
        (ofManifest depth (combine ns)).graph = g) := by
  intro g
  have hg : g.WellFormed := Graph.WellFormed.join _ _
  refine ⟨hg, ?_, ?_, ?_, ?_, ?_, hg.length_flows, ?_⟩
  · intro h
    exact mem_names_ofManifest.trans exists_record_combine
  · intro v hv
    have h1 := (mem_vertices_ofManifest.mp hv).1
    rw [Manifest.handler_combine] at h1
    refine ⟨?_, congrArg Handler.comment h1, congrArg Handler.entryPoint h1⟩
    rw [← Name.toList_moduleKey]
    exact congrArg (fun v => v.moduleKey.toList) h1
  · intro p c k
    exact mem_keys_ofManifest.trans (and_congr mem_exchanges_combine mem_exchanges_combine)
  · intro f hf
    have h1 := message_of_mem_flows_ofManifest hf
    rw [Manifest.message_combine] at h1
    exact congrArg Message.comment h1
  · intro f hf f' hf' hn
    rw [message_of_mem_flows_ofManifest hf, message_of_mem_flows_ofManifest hf', hn]
  · intro ns hr hc he hm
    apply congrArg Analysis.graph (ofManifest_combine_eq depth hr _ _)
    · intro h
      rw [Manifest.handler_combine, Manifest.handler_combine, hc, he]
    · intro k
      rw [Manifest.message_combine, Manifest.message_combine, hm]

end MessageFlow.Analysis
