import SqlCluster.Proofs.Url.Percent
import SqlCluster.Request

/-!
Queries of statements: the settings of a client as one text (`settingsText`), which is written in a
URL as it is.
-/

namespace SqlCluster.Client

/-- The query of statements as a text: that times are wanted, the level, and whether they are to be
run in a transaction and to be queued. -/
def settingsText (level : Level) (transactions queue : Bool) : String :=
  "timings&level=" ++ level.name ++ (if transactions then "&transaction" else "") ++
    if queue then "&queue" else ""

theorem queryText_eq (config : Config) (queue : Bool) :
    config.queryText queue = settingsText config.level config.transactions queue := by
  rw [Config.queryText]
  cases config.level <;> cases config.transactions <;> cases queue <;> decide

/-- Nothing in the query of statements needs an escape. -/
theorem keeps_settingsText (level : Level) (transactions queue : Bool) :
    Url.queryQuoting.Keeps (settingsText level transactions queue).toList := by
  cases level <;> cases transactions <;> cases queue <;> decide

theorem query_of_requestUrl? {config : Config} {op : Operation} {p : Peer} {queue : Bool}
    {url : Url}
    (h : config.requestUrl? op p queue = some url) (hop : op.takesStatements = true) :
    url.query = (settingsText config.level config.transactions queue).toList := by
  simp only [Config.requestUrl?, Option.bind_eq_bind, Option.bind_eq_some_iff, hop, if_true,
    queryText_eq] at h
  obtain ⟨port, -, h⟩ := h
  rw [Url.build?] at h
  dsimp only at h
  split at h
  · split at h
    · cases h
      exact (keeps_settingsText _ _ _).quote_eq
    · cases h
  · simp only [Option.bind_eq_bind, Option.bind_eq_some_iff] at h
    obtain ⟨host, -, h⟩ := h
    split at h
    · cases h
    · cases h
      exact (keeps_settingsText _ _ _).quote_eq

end SqlCluster.Client
