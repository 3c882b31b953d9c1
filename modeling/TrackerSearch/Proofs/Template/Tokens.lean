import TrackerSearch.Proofs.Template.Language
import TrackerSearch.Proofs.Text.Replace

/-!
# Reading tokens back

The tokens of a pipeline are found again where they were written a space apart, whatever the
constants among them hold, and each command is found again between its bars.
-/
namespace TrackerSearch.Template

open TrackerSearch.Text

variable {s t rest text : List Char} {ctx : Context}

/-! ## One token -/

/-- A token that ends where a space follows. -/
def IsToken (t : List Char) : Prop := ∀ rest, token? (t ++ ' ' :: rest) = some (t, ' ' :: rest)

theorem takeWhile_isPlain (h : ∀ c ∈ t, isPlain c = true) (rest : List Char) :
    (t ++ ' ' :: rest).takeWhile isPlain = t ∧
      (t ++ ' ' :: rest).dropWhile isPlain = ' ' :: rest := by
  have hspace : isPlain ' ' = false := by decide
  exact takeWhile_dropWhile_append h (by simp [hspace])

theorem isToken_of_plain (hplain : ∀ c ∈ t, isPlain c = true)
    (hhead : ∃ c, t.head? = some c ∧ c ≠ '"' ∧ c ≠ '\x60') : IsToken t := by
  intro rest
  obtain ⟨c, hc, hquote, hback⟩ := hhead
  obtain ⟨s, rfl⟩ := List.head?_eq_some_iff.mp hc
  obtain ⟨htake, hdrop⟩ := takeWhile_isPlain hplain rest
  have hpc : isPlain c = true := hplain c (by simp)
  have hbar : c ≠ '|' := by
    rintro rfl
    exact absurd hpc (by decide)
  rw [List.cons_append] at htake hdrop ⊢
  simp only [token?, if_neg hquote, if_neg hback, if_neg hbar, hpc, if_true, htake, hdrop]

theorem isToken_bar : IsToken ['|'] := fun _ => rfl

/-- The closing quote of a constant is the one that was put there. -/
theorem quotedRest?_escaped (text rest : List Char) :
    quotedRest? (text.flatMap Term.escaped ++ '"' :: rest) =
      some (text.flatMap Term.escaped ++ ['"'], rest) := by
  induction text with
  | nil => rfl
  | cons c text ih =>
    by_cases hc : c = '"' ∨ c = '\\'
    · have hline : c ≠ '\n' := by rcases hc with rfl | rfl <;> decide
      simp [Term.escaped, hc, quotedRest?, hline, ih]
    · obtain ⟨hquote, hslash⟩ := not_or.mp hc
      simp [Term.escaped, quotedRest?, hquote, hslash, ih]

theorem isToken_quoted (text : List Char) : IsToken (Term.quoted text) := by
  intro rest
  have h := quotedRest?_escaped text (' ' :: rest)
  simp only [Term.quoted, List.cons_append, List.append_assoc, List.nil_append, token?, if_true, h]

theorem isToken_term {term : Term} (h : term.IsWritable) : IsToken term.token := by
  cases term with
  | keywords =>
    exact isToken_of_plain (List.all_eq_true.mp (by decide)) ⟨'.', rfl, by decide, by decide⟩
  | queryKeywords =>
    exact isToken_of_plain (List.all_eq_true.mp (by decide)) ⟨'.', rfl, by decide, by decide⟩
  | config name =>
    refine isToken_of_plain (fun c hc => ?_) ⟨'.', rfl, by decide, by decide⟩
    have hlead : ∀ c ∈ ".Config.".toList, isPlain c = true :=
      List.all_eq_true.mp (by decide)
    rcases List.mem_append.mp hc with hc | hc
    · exact hlead c hc
    · exact (h.2 c hc).1
  | constant text => exact isToken_quoted text

theorem token_ne_bar (term : Term) : term.token ≠ ['|'] := by
  cases term with
  | keywords => decide
  | queryKeywords => decide
  | config name => exact fun h => absurd (List.cons.inj h).1 (by decide)
  | constant text => exact fun h => absurd (List.cons.inj h).1 (by decide)

theorem isToken_name (f : Function) : IsToken f.name := by
  cases f <;> exact isToken_of_plain (List.all_eq_true.mp (by decide)) ⟨'r', rfl, by decide, by decide⟩

theorem name_ne_bar (f : Function) : f.name ≠ ['|'] := by cases f <;> decide

/-! ## All tokens -/

/-- Tokens that are followed by a space each are found again. -/
theorem tokensOf_spaced {ts : List (List Char)} (h : ∀ t ∈ ts, IsToken t) :
    ∀ fuel, (ts.flatMap (· ++ [' '])).length ≤ fuel →
      tokensOf fuel (ts.flatMap (· ++ [' '])) = ts := by
  induction ts with
  | nil =>
    intro fuel _
    cases fuel <;> rfl
  | cons t ts ih =>
    intro fuel hfuel
    obtain ⟨ht, hts⟩ := List.forall_mem_cons.mp h
    have hread := ht (ts.flatMap (· ++ [' ']))
    have hsource : (t :: ts).flatMap (· ++ [' ']) = t ++ ' ' :: ts.flatMap (· ++ [' ']) := by simp
    rw [hsource] at hfuel ⊢
    cases t with
    | nil =>
      -- There is no token at a space.
      simp [token?, isPlain, isBlank] at hread
    | cons c t =>
      simp only [List.cons_append, List.length_cons, List.length_append] at hfuel hread ⊢
      obtain ⟨fuel, rfl⟩ : ∃ n, fuel = n + 2 := ⟨fuel - 2, by omega⟩
      have hspace : token? (' ' :: ts.flatMap (· ++ [' '])) = none := rfl
      simp only [tokensOf, hread, hspace]
      rw [ih hts fuel (by omega)]

theorem joinWith_space {ts : List (List Char)} (h : ts ≠ []) :
    joinWith [' '] ts ++ [' '] = ts.flatMap (· ++ [' ']) := by
  induction ts with
  | nil => exact absurd rfl h
  | cons t ts ih =>
    cases ts with
    | nil => simp [joinWith]
    | cons t' ts =>
      rw [joinWith_cons (by simp), List.append_assoc, ih (by simp)]
      simp

/-- The tokens of some commands, with bars between the commands. -/
def barred : List (List (List Char)) → List (List Char)
  | [] => []
  | [command] => command
  | command :: commands => command ++ ['|'] :: barred commands

theorem barred_cons_cons (command command' : List (List Char))
    (commands : List (List (List Char))) :
    barred (command :: command' :: commands) = command ++ ['|'] :: barred (command' :: commands) :=
  rfl

theorem joinWith_bar {commands : List (List (List Char))} (hne : commands ≠ [])
    (h : ∀ command ∈ commands, command ≠ []) :
    joinWith " | ".toList (commands.map (joinWith [' '])) ++ [' '] =
      (barred commands).flatMap (· ++ [' ']) := by
  induction commands with
  | nil => exact absurd rfl hne
  | cons command commands ih =>
    obtain ⟨hcommand, hcommands⟩ := List.forall_mem_cons.mp h
    cases commands with
    | nil => exact joinWith_space hcommand
    | cons command' commands =>
      have hrest := ih (by simp) hcommands
      rw [List.map_cons, joinWith_cons (by simp), List.append_assoc, List.append_assoc, hrest,
        barred_cons_cons, List.flatMap_append, ← joinWith_space hcommand]
      simp

theorem isToken_barred {commands : List (List (List Char))}
    (h : ∀ command ∈ commands, ∀ t ∈ command, IsToken t) : ∀ t ∈ barred commands, IsToken t := by
  induction commands with
  | nil => simp [barred]
  | cons command commands ih =>
    obtain ⟨hcommand, hcommands⟩ := List.forall_mem_cons.mp h
    cases commands with
    | nil => exact hcommand
    | cons command' commands =>
      intro t ht
      rw [barred_cons_cons] at ht
      rcases List.mem_append.mp ht with ht | ht
      · exact hcommand t ht
      · rcases List.mem_cons.mp ht with rfl | ht
        · exact isToken_bar
        · exact ih hcommands t ht

/-! ## Commands -/

theorem pipeline_ne_nil (ts : List (List Char)) : pipeline ts ≠ [] := by
  cases ts with
  | nil => simp [pipeline]
  | cons t ts =>
    unfold pipeline
    rw [List.foldr_cons]
    split
    · simp
    · split <;> simp

theorem pipeline_append {command ts : List (List Char)} (h : ['|'] ∉ command) :
    pipeline (command ++ ['|'] :: ts) = command :: pipeline ts := by
  induction command with
  | nil => simp [pipeline]
  | cons t command ih =>
    simp only [List.mem_cons, not_or] at h
    have hrest := ih h.2
    unfold pipeline at hrest ⊢
    rw [List.cons_append, List.foldr_cons, hrest]
    simp [Ne.symm h.1]

theorem pipeline_single {command : List (List Char)} (h : ['|'] ∉ command) :
    pipeline command = [command] := by
  induction command with
  | nil => rfl
  | cons t command ih =>
    simp only [List.mem_cons, not_or] at h
    have hrest := ih h.2
    unfold pipeline at hrest ⊢
    rw [List.foldr_cons, hrest]
    simp [Ne.symm h.1]

/-- The commands are found again between the bars. -/
theorem pipeline_barred {commands : List (List (List Char))} (hne : commands ≠ [])
    (h : ∀ command ∈ commands, ['|'] ∉ command) : pipeline (barred commands) = commands := by
  induction commands with
  | nil => exact absurd rfl hne
  | cons command commands ih =>
    obtain ⟨hcommand, hcommands⟩ := List.forall_mem_cons.mp h
    cases commands with
    | nil => exact pipeline_single hcommand
    | cons command' commands =>
      rw [barred_cons_cons, pipeline_append hcommand, ih (by simp) hcommands]

/-! ## Pipelines -/

/-- Its tokens are found again, and none is taken for a bar. -/
structure IsCommand (command : List (List Char)) : Prop where
  ne_nil : command ≠ []
  tokens : ∀ t ∈ command, IsToken t
  bars : ['|'] ∉ command

theorem isCommand_call (f : Function) {terms : List Term}
    (h : ∀ term ∈ terms, term.IsWritable) : IsCommand (f.name :: terms.map Term.token) where
  ne_nil := by simp
  tokens := List.forall_mem_cons.mpr ⟨isToken_name f, List.forall_mem_map.mpr fun term hm =>
    isToken_term (h term hm)⟩
  bars hm := by
    rcases List.mem_cons.mp hm with hm | hm
    · exact name_ne_bar f hm.symm
    · obtain ⟨term, -, hterm⟩ := List.mem_map.mp hm
      exact token_ne_bar term hterm

theorem isCommand_term {term : Term} (h : term.IsWritable) : IsCommand [term.token] where
  ne_nil := by simp
  tokens := by simpa using isToken_term h
  bars := by simpa using (token_ne_bar term).symm

theorem mem_stages_isWritable {p : Pipeline} (h : ∀ term ∈ p.terms, term.IsWritable) {s : Stage}
    (hs : s ∈ p.stages) : ∀ term ∈ [s.first, s.second], term.IsWritable := fun term hm =>
  h term (List.mem_append_right _ (List.mem_flatMap.mpr ⟨s, hs, hm⟩))

theorem isCommand_commands {p : Pipeline} (h : ∀ term ∈ p.terms, term.IsWritable) :
    ∀ command ∈ p.commands, IsCommand command := by
  have hstart : ∀ term ∈ p.start.terms, term.IsWritable := fun term hm =>
    h term (List.mem_append_left _ hm)
  refine List.forall_mem_cons.mpr ⟨?_, List.forall_mem_map.mpr fun s hs => ?_⟩
  · cases hp : p.start with
    | term t => exact isCommand_term (hstart t (by simp [hp, Start.terms]))
    | call f v x y =>
      rw [hp] at hstart
      exact isCommand_call f hstart
  · exact isCommand_call s.function (mem_stages_isWritable h hs)

/-- A pipeline that is written down is read as its commands. -/
theorem pipeline_source {p : Pipeline} (h : ∀ term ∈ p.terms, term.IsWritable) :
    pipeline (tokens (' ' :: p.source ++ [' '])) = p.commands := by
  have hcommands := isCommand_commands h
  have hne : p.commands ≠ [] := by simp [Pipeline.commands]
  have hsource : ' ' :: p.source ++ [' '] = ' ' :: (barred p.commands).flatMap (· ++ [' ']) := by
    rw [List.cons_append, Pipeline.source,
      joinWith_bar hne fun command hm => (hcommands command hm).ne_nil]
  have hspace : token? (' ' :: (barred p.commands).flatMap (· ++ [' '])) = none := rfl
  have htokens : ∀ t ∈ barred p.commands, IsToken t :=
    isToken_barred fun command hm => (hcommands command hm).tokens
  rw [hsource, tokens, List.length_cons, tokensOf, hspace]
  simp only
  rw [tokensOf_spaced htokens _ (Nat.le_refl _),
    pipeline_barred hne fun command hm => (hcommands command hm).bars]

end TrackerSearch.Template
