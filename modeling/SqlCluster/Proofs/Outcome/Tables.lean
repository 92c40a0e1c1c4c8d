import SqlCluster.Proofs.Outcome.Rendered

/-!
Responses that tell of tables. For every operation but a write, an object with columns is read as a
table, so the tables of a response are decoded, in their order (`Response.decode_tables`).
-/

namespace SqlCluster.Response

open Text Outcome

variable {op : Operation} {ts : List Table}

theorem outcome_table {index : Nat} (t : Table) (hop : op ≠ .write) :
    outcome op index (item (.rows t)) = .ok (.rows t) := by
  have houtcome : outcome op index (item (.rows t)) = (table (item (.rows t))).map .rows := by
    cases op with
    | write => exact absurd rfl hop
    | _ => rfl
  rw [houtcome, table_item]
  rfl

theorem outcomes_tables {index : Nat} (hop : op ≠ .write) :
    outcomes op index ((ts.map Outcome.rows).map item) = .ok (ts.map .rows) := by
  induction ts generalizing index with
  | nil => rfl
  | cons t ts ih =>
    simp only [List.map_cons, outcomes, outcome_table t hop, ih, bind, Except.bind, pure,
      Except.pure]

/-- From the text of a response that tells of tables, those are decoded. -/
theorem decode_tables (hop : op ≠ .write) (h : ∀ t ∈ ts, (Outcome.rows t).IsRenderable 0) :
    ∃ text, Json.write (rendered (ts.map .rows)) = .ok text ∧
      decode (Utf8.encode text) op (some ts.length) = .ok (ts.map .rows) := by
  have hitems : ∀ v ∈ (ts.map Outcome.rows).map item,
      (∃ t, Json.write v = .ok t) ∧ v.HasDistinctKeys := by
    intro v hv
    simp only [List.map_map, List.mem_map, Function.comp_apply] at hv
    obtain ⟨t, ht, rfl⟩ := hv
    exact ⟨exists_write_item (h t ht), hasDistinctKeys_item (h t ht)⟩
  obtain ⟨text, htext⟩ : ∃ text, Json.write (rendered (ts.map .rows)) = .ok text :=
    Json.exists_write_dict <| List.forall_mem_singleton.2 <|
      Json.exists_write_list fun v hv => (hitems v hv).1
  have hkeys : (rendered (ts.map .rows)).HasDistinctKeys :=
    ⟨by simp, Json.haveDistinctKeys_iff.2 fun v hv => (hitems v hv).2, trivial⟩
  have haccepted : accepted (Utf8.encode text) = .ok (rendered (ts.map .rows)) :=
    accepted_of_write htext hkeys rfl
  have hresults : (rendered (ts.map .rows)).field "results" =
      .list ((ts.map Outcome.rows).map item) := rfl
  refine ⟨text, htext, ?_⟩
  rw [decode, haccepted]
  simp only [bind, Except.bind, hresults, List.length_map]
  rw [if_neg (by simp)]
  exact outcomes_tables hop

end SqlCluster.Response
