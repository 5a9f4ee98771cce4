import ControlPlane.Data.Quoting
import ControlPlane.Promquery.Client

/-! How the store reads the selectors of the queries. The literal that a matcher emits ends where
the matcher ends and stands for the tenant's value, so the matcher tells the tenants apart and
a selector has no matcher but the one that was written. -/
namespace ControlPlane.Promquery
open Go Quoting

/-- A matcher `name="literal"`, and what follows it. -/
def readMatcher (s : Bytes) : Option ((Bytes × Bytes) × Bytes) :=
  match s.dropWhile (· ≠ 61) with
  | 61::34::body => (scan 92 34 body).map fun read => ((s.takeWhile (· ≠ 61),read.1),read.2)
  | _ => none

/-- The matchers of a selector up to its closing brace, and what follows it. -/
def readSelector : Nat → Bytes → Option (List (Bytes × Bytes) × Bytes)
  | 0,_ => none
  | count+1,s =>
    match readMatcher s with
    | some (matcher,125::rest) => some ([matcher],rest)
    | some (matcher,44::rest) => (readSelector count rest).map fun read => (matcher::read.1,read.2)
    | _ => none

/-- No character of the name has a meaning of its own in a matcher. -/
def PlainName (name : Bytes) : Prop := ∀ char ∈ name, char ≠ 61 ∧ char ≠ 92 ∧ char ≠ 34

/-- The queries of the four observations. -/
def queries : List (TenantLabel → Bytes) := [kafkaLagQuery,p99Query,partitionCountQuery,partitionStartQuery]

theorem escapePromQLString_escape (value : Bytes) : escapePromQLString value = escape 92 34 value := by
  unfold escapePromQLString replaceAll escape
  rw [List.flatMap_assoc]
  apply List.flatMap_congr
  intro char _
  by_cases slash : char = 92
  · subst slash
    rfl
  · by_cases quotation : char = 34
    · subst quotation
      rfl
    · simp [slash,quotation]

theorem matcher_shape (label : TenantLabel) :
    label.matcher = escapePromQLString label.name ++ 61::34::(escape 92 34 label.value ++ [34]) := by
  unfold TenantLabel.matcher
  rw [escapePromQLString_escape label.value]
  simp

theorem matcher_escape (label : TenantLabel) :
    label.matcher = escape 92 34 (label.name ++ [61]) ++ 34::(escape 92 34 label.value ++ [34]) := by
  rw [matcher_shape,escapePromQLString_escape,escape_append]
  simp [escape]

theorem matcher_injective {one other : TenantLabel} (same : one.matcher = other.matcher) : one = other := by
  rw [matcher_escape,matcher_escape] at same
  have names := congrArg (scan 92 34) same
  rw [scan_escape (by decide),scan_escape (by decide),Option.some.injEq,Prod.mk.injEq] at names
  obtain ⟨name,literals⟩ := names
  have values := congrArg (scan 92 34) literals
  rw [scan_escape (by decide),scan_escape (by decide),Option.some.injEq,Prod.mk.injEq] at values
  cases one
  cases other
  rw [TenantLabel.mk.injEq]
  exact ⟨List.append_cancel_right name,values.1⟩

theorem readMatcher_matcher {label : TenantLabel} (plain : PlainName label.name) (rest : Bytes) :
    readMatcher (label.matcher ++ rest) = some ((label.name,label.value),rest) := by
  have shape : label.matcher ++ rest = label.name ++ 61::34::(escape 92 34 label.value ++ 34::rest) := by
    rw [matcher_shape,escapePromQLString_escape,escape_plain (fun char member => (plain char member).2)]
    simp
  have before : ∀ char ∈ label.name, decide (char ≠ 61) = true :=
    fun char member => decide_eq_true (plain char member).1
  have tail : (label.matcher ++ rest).dropWhile (· ≠ 61) = 61::34::(escape 92 34 label.value ++ 34::rest) := by
    rw [shape,List.dropWhile_append_of_pos before]
    rfl
  have name : (label.matcher ++ rest).takeWhile (· ≠ 61) = label.name := by
    rw [shape,List.takeWhile_append_of_pos before]
    simp
  unfold readMatcher
  rw [tail,name]
  change (scan 92 34 (escape 92 34 label.value ++ 34::rest)).map _ = _
  rw [scan_escape (by decide)]
  rfl

theorem readSelector_matcher {label : TenantLabel} (plain : PlainName label.name) (count : Nat) (rest : Bytes) :
    readSelector (count+1) (label.matcher ++ 125::rest) = some ([(label.name,label.value)],rest) := by
  rw [readSelector,readMatcher_matcher plain]
  rfl

theorem queries_shape : ∀ query ∈ queries, ∃ lead tail, ∀ label : TenantLabel,
    query label = lead ++ 123::(label.matcher ++ 125::tail) := by
  unfold queries
  simp only [List.forall_mem_cons]
  refine ⟨⟨kafkaLagMetric,[],?_⟩,
    ⟨text "histogram_quantile(0.99, sum(rate(" ++ latencyBucketMetric,
      91::(latencyQuantileWindow ++ text "])) by (le))"),?_⟩,
    ⟨partitionCountMetric,[],?_⟩,⟨partitionStartMetric,[],?_⟩,List.forall_mem_nil _⟩
  all_goals
    intro label
    simp [kafkaLagQuery,p99Query,partitionCountQuery,partitionStartQuery,selector]

/-- The literal of a matcher ends with the matcher, whatever follows, and stands for the value. -/
theorem matcher_literal (label : TenantLabel) (rest : Bytes) :
    ∃ body, label.matcher ++ rest = escapePromQLString label.name ++ 61::34::body ∧
      scan 92 34 body = some (label.value,rest) := by
  refine ⟨escape 92 34 label.value ++ 34::rest,?_,scan_escape (by decide) label.value rest⟩
  rw [matcher_shape]
  simp

/-- A tenant's value cannot leave its literal: not in the matcher, and in no query. -/
theorem label_escaping_sound :
    (∀ label : TenantLabel, ∃ body, label.matcher = escapePromQLString label.name ++ 61::34::body ∧
      scan 92 34 body = some (label.value,[])) ∧
    (∀ one other : TenantLabel, one.matcher = other.matcher → one = other) ∧
    ∀ query ∈ queries, ∃ lead tail, ∀ label : TenantLabel, query label = lead ++ 123::(label.matcher ++ 125::tail) ∧
      (∃ body, label.matcher ++ 125::tail = escapePromQLString label.name ++ 61::34::body ∧
        scan 92 34 body = some (label.value,125::tail)) ∧
      (PlainName label.name → readSelector (query label).length (label.matcher ++ 125::tail) =
        some ([(label.name,label.value)],tail)) := by
  refine ⟨?_,fun one other => matcher_injective,?_⟩
  · intro label
    have literal := matcher_literal label []
    rwa [List.append_nil] at literal
  intro query member
  obtain ⟨lead,tail,shape⟩ := queries_shape query member
  refine ⟨lead,tail,fun label => ⟨shape label,matcher_literal label _,?_⟩⟩
  intro plain
  have some : 0 < (query label).length := by
    rw [shape label]
    simp
  obtain ⟨count,length⟩ := Nat.exists_eq_add_one_of_ne_zero some.ne'
  rw [length]
  exact readSelector_matcher plain count tail

/-- The value `acme"},tenant="\` would end the selector and open another matcher if it were not escaped. -/
theorem hostile_value_stays_literal :
    let label : TenantLabel := ⟨text "tenant",text "acme\"\x7d,tenant=\"\\"⟩
    PlainName label.name ∧ ∃ lead tail, kafkaLagQuery label = lead ++ 123::(label.matcher ++ 125::tail) ∧
      readSelector (kafkaLagQuery label).length (label.matcher ++ 125::tail) =
        some ([(label.name,label.value)],tail) := by
  intro label
  have plain : PlainName label.name := by
    change PlainName [116,101,110,97,110,116]
    unfold PlainName
    simp
  obtain ⟨lead,tail,read⟩ := label_escaping_sound.2.2 kafkaLagQuery List.mem_cons_self
  exact ⟨plain,lead,tail,(read label).1,(read label).2.2 plain⟩

end ControlPlane.Promquery
