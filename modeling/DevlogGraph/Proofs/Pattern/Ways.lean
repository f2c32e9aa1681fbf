import DevlogGraph.Pattern.Entities
import DevlogGraph.Proofs.Pattern.Search

/-! A backtracking search tries the ways of matching one after another: the first alternative before
the second, more rounds of a repetition before fewer. The first way to get through the rule counts,
be it long or short. Where no other way is longer, such a search takes what the rule reaches. -/
namespace DevlogGraph.Pattern.Rule

/-- What is left after some rounds, first after as many as there can be. Each round takes something. -/
def rounds (step : List Char → List (List Char)) : Nat → List Char → List (List Char)
  | 0, text => [text]
  | fuel + 1, text =>
      ((step text).filter fun rest => decide (rest.length < text.length)).flatMap (rounds step fuel) ++
        [text]

/-- What is left of the text behind each beginning of it that the rule matches, in the order in which
a backtracking search tries the ways of matching. -/
def ways : Rule → List Char → List (List Char)
  | never, _ => []
  | done, text => [text]
  | one _, [] => []
  | one cls, c :: rest => if cls.holds c then [rest] else []
  | seq first second, text => (first.ways text).flatMap second.ways
  | either left right, text => left.ways text ++ right.ways text
  | many body, text => rounds body.ways text.length text

private theorem mem_rounds_iff {body : Rule} (round : ∀ text rest, rest ∈ body.ways text ↔
      ∃ word, text = word ++ rest ∧ Matches body word) (enough : text.length ≤ fuel) :
    rest ∈ rounds body.ways fuel text ↔ ∃ word, text = word ++ rest ∧ Matches (many body) word := by
  induction fuel generalizing text with
  | zero =>
    obtain rfl := List.length_eq_zero_iff.mp (Nat.le_zero.mp enough)
    rw [rounds, List.mem_singleton]
    constructor
    · rintro rfl
      exact ⟨[], rfl, .stop⟩
    · rintro ⟨word, cut, _⟩
      exact (List.append_eq_nil_iff.mp cut.symm).2
  | succ fuel ih =>
    rw [rounds, List.mem_append, List.mem_flatMap, List.mem_singleton]
    constructor
    · rintro (⟨middle, member, after⟩ | rfl)
      · obtain ⟨taken, shorter⟩ := List.mem_filter.mp member
        rw [decide_eq_true_eq] at shorter
        obtain ⟨first, rfl, matched⟩ := (round _ _).mp taken
        obtain ⟨later, rfl, others⟩ := (ih (by omega)).mp after
        exact ⟨first ++ later, by rw [List.append_assoc], .more matched others⟩
      · exact ⟨[], rfl, .stop⟩
    · rintro ⟨word, rfl, matched⟩
      cases word with
      | nil => exact .inr rfl
      | cons c word =>
        obtain ⟨first, later, rfl, here, others⟩ := matches_many_cons_iff.mp matched
        have parts : c :: (first ++ later) ++ rest = (c :: first) ++ (later ++ rest) := by simp
        rw [parts] at enough ⊢
        rw [List.length_append, List.length_cons] at enough
        refine .inl ⟨later ++ rest, List.mem_filter.mpr ⟨(round _ _).mpr ⟨_, rfl, here⟩, ?_⟩, ?_⟩
        · simp only [decide_eq_true_eq, List.length_append, List.length_cons]
          omega
        · exact (ih (by omega)).mpr ⟨later, rfl, others⟩

/-- A way leads through a word of the rule, and every word at the start of the text has a way. -/
theorem mem_ways_iff {rule : Rule} :
    rest ∈ rule.ways text ↔ ∃ word, text = word ++ rest ∧ Matches rule word := by
  induction rule generalizing text rest with
  | never => simp [ways, not_matches_never]
  | done => simp [ways, matches_done_iff, eq_comm]
  | one cls =>
    cases text with
    | nil => simp [ways, matches_one_iff]
    | cons c later =>
      by_cases held : cls.holds c = true
      · simp only [ways, held, if_true, List.mem_singleton, matches_one_iff]
        constructor
        · rintro rfl
          exact ⟨[c], rfl, c, rfl, held⟩
        · rintro ⟨word, cut, d, rfl, _⟩
          exact (List.cons.inj cut).2.symm
      · simp only [ways, held, matches_one_iff]
        constructor
        · intro member
          cases member
        · rintro ⟨word, cut, d, rfl, same⟩
          exact absurd ((List.cons.inj cut).1 ▸ same) held
  | seq first second ihFirst ihSecond =>
    simp only [ways, List.mem_flatMap, ihFirst, ihSecond, matches_seq_iff]
    constructor
    · rintro ⟨middle, ⟨left, rfl, head⟩, right, rfl, tail⟩
      exact ⟨left ++ right, by rw [List.append_assoc], left, right, rfl, head, tail⟩
    · rintro ⟨word, rfl, left, right, rfl, head, tail⟩
      exact ⟨right ++ rest, ⟨left, by rw [List.append_assoc], head⟩, right, rfl, tail⟩
  | either left right ihLeft ihRight =>
    simp only [ways, List.mem_append, ihLeft, ihRight, matches_either_iff, and_or_left, exists_or]
  | many body ih => exact mem_rounds_iff (fun _ _ => ih) (Nat.le_refl _)

/-- No way is longer than the first one. -/
def LongestFirst (rule : Rule) : Prop :=
  ∀ text rest others, rule.ways text = rest :: others → ∀ other ∈ others, rest.length ≤ other.length

/-- No way is longer than one before it. -/
def Sorted (rule : Rule) : Prop :=
  ∀ text, (rule.ways text).Pairwise fun earlier later => earlier.length ≤ later.length

/-- There is at most one way. -/
def Single (rule : Rule) : Prop := ∀ text, (rule.ways text).length ≤ 1

/-- Only the first way through the first rule leads on through the second one. -/
def Forced (first second : Rule) : Prop :=
  ∀ text rest others, first.ways text = rest :: others → ∀ other ∈ others, second.ways other = []

theorem Sorted.longestFirst {rule : Rule} (sorted : rule.Sorted) : rule.LongestFirst := by
  intro text rest others cut
  have order := sorted text
  rw [cut] at order
  exact (List.pairwise_cons.mp order).1

/-- Where the first way is the longest, a backtracking search takes what the rule reaches. -/
theorem LongestFirst.head_ways {rule : Rule} (longest : rule.LongestFirst) (text : List Char) :
    (rule.ways text).head? = (rule.reach text).map text.drop := by
  cases reached : rule.reach text with
  | none =>
    cases cut : rule.ways text with
    | nil => rfl
    | cons rest others =>
      obtain ⟨word, rfl, matched⟩ := mem_ways_iff.mp (cut ▸ List.mem_cons_self)
      obtain ⟨length, some_reach, _⟩ := length_le_reach matched (List.prefix_append word rest)
      rw [reached] at some_reach
      cases some_reach
  | some length =>
    obtain ⟨bound, matched⟩ := reach_matches reached
    have way : text.drop length ∈ rule.ways text :=
      mem_ways_iff.mpr ⟨_, (List.take_append_drop length text).symm, matched⟩
    cases cut : rule.ways text with
    | nil =>
      rw [cut] at way
      cases way
    | cons rest others =>
      have shortest : rest.length ≤ (text.drop length).length := by
        rw [cut] at way
        rcases List.mem_cons.mp way with same | later
        · exact Nat.le_of_eq (congrArg List.length same.symm)
        · exact longest text rest others cut _ later
      obtain ⟨word, rfl, found⟩ := mem_ways_iff.mp (cut ▸ List.mem_cons_self)
      obtain ⟨most, again, longer⟩ := length_le_reach found (List.prefix_append word rest)
      rw [reached] at again
      cases again
      rw [List.length_drop, List.length_append] at shortest
      rw [List.length_append] at bound
      have whole : length = word.length := by omega
      simp [whole]

private theorem Single.nil_or {rule : Rule} (single : rule.Single) (text : List Char) :
    rule.ways text = [] ∨ ∃ rest, rule.ways text = [rest] := by
  have bound := single text
  cases cut : rule.ways text with
  | nil => exact .inl rfl
  | cons rest others =>
    rw [cut, List.length_cons] at bound
    obtain rfl := List.length_eq_zero_iff.mp (Nat.le_zero.mp (Nat.le_of_succ_le_succ bound))
    exact .inr ⟨rest, rfl⟩

theorem single_done : Single done := fun _ => Nat.le_refl 1

theorem single_one (cls : CharClass) : (one cls).Single := by
  intro text
  cases text with
  | nil => exact Nat.zero_le 1
  | cons c rest =>
    rw [ways]
    split
    · exact Nat.le_refl 1
    · exact Nat.zero_le 1

theorem Single.seq {first second : Rule} (head : first.Single) (tail : second.Single) :
    (seq first second).Single := by
  intro text
  rw [ways]
  rcases head.nil_or text with none_here | ⟨rest, only⟩
  · simp [none_here]
  · simpa [only] using tail rest

theorem single_letters (cls : Char → CharClass) (word : String) : (letters cls word).Single := by
  unfold letters
  induction word.toList with
  | nil => exact single_done
  | cons c rest ih => exact (single_one _).seq ih

theorem Single.sorted {rule : Rule} (single : rule.Single) : rule.Sorted := by
  intro text
  rcases single.nil_or text with none_here | ⟨rest, only⟩
  · simp [none_here]
  · simp [only]

theorem Single.forced {first : Rule} (single : first.Single) (second : Rule) :
    Forced first second := by
  intro text rest others cut other member
  rcases single.nil_or text with none_here | ⟨_, only⟩
  · rw [none_here] at cut
    cases cut
  · rw [only] at cut
    cases cut
    cases member

theorem Sorted.seq {first second : Rule} (sorted : second.Sorted) (forced : Forced first second) :
    (seq first second).Sorted := by
  intro text
  rw [ways]
  cases cut : first.ways text with
  | nil => exact .nil
  | cons rest others =>
    have no_more : others.flatMap second.ways = [] :=
      List.flatMap_eq_nil_iff.mpr (forced text rest others cut)
    rw [List.flatMap_cons, no_more, List.append_nil]
    exact sorted rest

/-- Words of one length behind a rule do not change its order. -/
theorem Sorted.seq_sized {first second : Rule} (sorted : first.Sorted) (single : second.Single)
    (sized : ∀ word, Matches second word → word.length = size) : (Rule.seq first second).Sorted := by
  intro text
  rw [ways, List.pairwise_flatMap]
  refine ⟨fun rest _ => single.sorted rest, (sorted text).imp ?_⟩
  intro early late order rest here other there
  obtain ⟨word, rfl, matched⟩ := mem_ways_iff.mp here
  obtain ⟨another, rfl, found⟩ := mem_ways_iff.mp there
  rw [List.length_append, List.length_append, sized word matched, sized another found] at order
  exact Nat.le_of_add_le_add_left order

private theorem length_le_of_mem_rounds {step : List Char → List (List Char)}
    (member : rest ∈ rounds step fuel text) : rest.length ≤ text.length := by
  induction fuel generalizing text with
  | zero => exact Nat.le_of_eq (congrArg List.length (List.mem_singleton.mp member))
  | succ fuel ih =>
    rw [rounds, List.mem_append, List.mem_flatMap, List.mem_singleton] at member
    rcases member with ⟨middle, taken, after⟩ | rfl
    · have shorter := (List.mem_filter.mp taken).2
      rw [decide_eq_true_eq] at shorter
      exact Nat.le_trans (ih after) (Nat.le_of_lt shorter)
    · exact Nat.le_refl _

/-- A round that could have been longer is the last one, so that no later way gets further. -/
private theorem Sorted.pairwise_rounds {body : Rule} (sorted : body.Sorted)
    (forced : Forced body body) (fuel : List Char → Nat) (text : List Char) :
    (body.ways text).Pairwise fun early late => ∀ rest ∈ rounds body.ways (fuel early) early,
      ∀ other ∈ rounds body.ways (fuel late) late, rest.length ≤ other.length := by
  have order := sorted text
  cases cut : body.ways text with
  | nil => exact .nil
  | cons first others =>
    rw [cut] at order
    obtain ⟨here, there⟩ := List.pairwise_cons.mp order
    have only (late : List Char) (member : late ∈ others) (other : List Char)
        (way : other ∈ rounds body.ways (fuel late) late) : other = late := by
      cases steps : fuel late with
      | zero =>
        rw [steps] at way
        exact List.mem_singleton.mp way
      | succ fuel =>
        rw [steps] at way
        simpa [rounds, forced text first others cut late member] using way
    have further {early late : List Char} (member : late ∈ others)
        (bound : early.length ≤ late.length) : ∀ rest ∈ rounds body.ways (fuel early) early,
        ∀ other ∈ rounds body.ways (fuel late) late, rest.length ≤ other.length := by
      intro rest way other later
      rw [only late member other later]
      exact Nat.le_trans (length_le_of_mem_rounds way) bound
    exact List.pairwise_cons.mpr ⟨fun late member => further member (here late member),
      there.imp_of_mem fun _ member bound => further member bound⟩

theorem Sorted.many {body : Rule} (sorted : body.Sorted) (forced : Forced body body) :
    (many body).Sorted := by
  have ordered (fuel : Nat) (text : List Char) : (rounds body.ways fuel text).Pairwise
      fun earlier later => earlier.length ≤ later.length := by
    induction fuel generalizing text with
    | zero => exact List.pairwise_singleton _ _
    | succ fuel ih =>
      rw [rounds, List.pairwise_append, List.pairwise_flatMap]
      refine ⟨⟨fun rest _ => ih rest, ?_⟩, List.pairwise_singleton _ _, ?_⟩
      · exact (sorted.pairwise_rounds forced (fun _ => fuel) text).filter _
      · intro rest member whole same
        rw [List.mem_singleton.mp same]
        have inside : rest ∈ rounds body.ways (fuel + 1) text := by
          rw [rounds]
          exact List.mem_append_left _ member
        exact length_le_of_mem_rounds inside
  exact fun text => ordered text.length text

theorem Sorted.atLeastOnce {body : Rule} (sorted : body.Sorted) (forced : Forced body body) :
    (atLeastOnce body).Sorted := by
  intro text
  rw [Rule.atLeastOnce, ways, List.pairwise_flatMap]
  exact ⟨fun rest _ => sorted.many forced rest, sorted.pairwise_rounds forced List.length text⟩

theorem Forced.seq {first second : Rule} (forced : Forced second third) (single : first.Single) :
    Forced (seq first second) third := by
  intro text rest others cut
  rw [ways] at cut
  rcases single.nil_or text with none_here | ⟨middle, only⟩
  · rw [none_here] at cut
    cases cut
  · rw [only, List.flatMap_cons, List.flatMap_nil, List.append_nil] at cut
    exact forced middle rest others cut

/-- A shorter beginning can only win if nothing that a longer one would have found is lost. -/
theorem LongestFirst.seq {first second : Rule} (longest : second.LongestFirst)
    (kept : ∀ text, (first.ways text).Pairwise fun early late => ∀ rest ∈ second.ways early,
      ∀ other ∈ second.ways late, other.length < rest.length → other ∈ second.ways early) :
    (seq first second).LongestFirst := by
  intro text rest others
  rw [ways]
  have found := kept text
  revert found
  induction first.ways text with
  | nil =>
    intro _ cut
    cases cut
  | cons early later ih =>
    intro found cut other member
    obtain ⟨here, there⟩ := List.pairwise_cons.mp found
    rw [List.flatMap_cons] at cut
    cases own : second.ways early with
    | nil =>
      rw [own, List.nil_append] at cut
      exact ih there cut other member
    | cons first_way mine =>
      rw [own, List.cons_append] at cut
      obtain ⟨rfl, rfl⟩ := List.cons.inj cut
      have best := longest early first_way mine own
      rcases List.mem_append.mp member with near | far
      · exact best other near
      · obtain ⟨late, listed, way⟩ := List.mem_flatMap.mp far
        refine Nat.le_of_not_lt fun shorter => ?_
        have again := here late listed first_way (own ▸ List.mem_cons_self) other way shorter
        rw [own] at again
        rcases List.mem_cons.mp again with same | near
        · exact absurd (same ▸ shorter) (Nat.lt_irrefl _)
        · exact Nat.not_lt.mpr (best other near) shorter

end DevlogGraph.Pattern.Rule
