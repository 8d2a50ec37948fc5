import DocQuery.Query.Builder

/-!
# Builders That Share a Beginning

A builder may be continued in several ways, and the builders that come of this share the tokens of
their beginning.  A history is a list of calls in the order in which they are made, each with the number
of the builder that it is made on.  The builders are numbered as they are made, and a number that none
has stands for a new one, so the sources of the calls make a tree.  The closure of a group goes on with
the numbers, for it may use the builders around it.  A call that fails gives the builder that it was
made on.

The trail of a builder tells what the calls on the path to it have left behind, from the first on.  It
is read off the history without any builder.  The main statement is that every builder has the tokens of
its own trail, their number, and the last sort order and the last number to take of its trail, whatever
the other calls of the history are.
-/

namespace DocQuery

/-- A call on a builder.  The closure of a group goes on from the builders that are there already, and
hands over one of them or of its own. -/
inductive BuilderCall where
  | property (key : String) (value : Value) (options : PropertyOptions)
  | and
  | or
  | bound (d : DateBound)
  | sort (key : String) (isAscending : Bool)
  | sortBy (key order : String)
  | take (n : Int64)
  | group (closure : List (Nat × BuilderCall)) (returned : Nat)

namespace Builder

mutual

/-- The builder after a call; `known` are those that a closure finds. -/
def after (known : List Builder) (b : Builder) : BuilderCall → Builder
  | .property key value options => b.property key value options
  | .and => b.and
  | .or => b.or
  | .bound d => b.bound d
  | .sort key isAscending => b.sort key isAscending
  | .sortBy key order => (b.sortBy key order).toOption.getD b
  | .take n => (b.take n).toOption.getD b
  | .group closure returned => b.group ((made known closure).getD returned {})

/-- All builders after the calls of a history, in the order in which they are made; `known` are those of
before. -/
def made (known : List Builder) : List (Nat × BuilderCall) → List Builder
  | [] => known
  | (source, call) :: rest => made (known ++ [(known.getD source {}).after known call]) rest

end

end Builder

/-! ## Trails -/

/-- What a call leaves behind that succeeds. -/
inductive Mark where
  | token (t : Token)
  | sort (rule : SortRule)
  | take (count : Nat)

namespace Mark

/-- The token of a mark. -/
def token? : Mark → Option Token
  | token t => some t
  | _ => none

/-- The sort order of a mark. -/
def sort? : Mark → Option SortRule
  | sort rule => some rule
  | _ => none

/-- The number to take of a mark. -/
def take? : Mark → Option Nat
  | take count => some count
  | _ => none

end Mark

/-- The tokens of a trail. -/
def tokensOf (trail : List Mark) : List Token := trail.filterMap Mark.token?

/-- The last sort order of a trail. -/
def sortOf? (trail : List Mark) : Option SortRule := (trail.filterMap Mark.sort?).getLast?

/-- The last number to take of a trail. -/
def takeOf? (trail : List Mark) : Option Nat := (trail.filterMap Mark.take?).getLast?

theorem tokensOf_concat (trail : List Mark) (m : Mark) :
    tokensOf (trail ++ [m]) = tokensOf trail ++ m.token?.toList := by
  rw [tokensOf, List.filterMap_append]
  cases m <;> rfl

theorem getLast?_filterMap_concat {α : Type} (f : Mark → Option α) (trail : List Mark) (m : Mark) :
    ((trail ++ [m]).filterMap f).getLast? = (f m).or (trail.filterMap f).getLast? := by
  rw [List.filterMap_append, List.getLast?_append, List.filterMap_cons, List.filterMap_nil]
  cases f m <;> rfl

theorem sortOf?_concat (trail : List Mark) (m : Mark) :
    sortOf? (trail ++ [m]) = m.sort?.or (sortOf? trail) :=
  getLast?_filterMap_concat ..

theorem takeOf?_concat (trail : List Mark) (m : Mark) :
    takeOf? (trail ++ [m]) = m.take?.or (takeOf? trail) :=
  getLast?_filterMap_concat ..

mutual

/-- The marks that a call leaves: none if it fails, and a single token if it is a group. -/
def BuilderCall.marks (known : List (List Mark)) : BuilderCall → List Mark
  | .property key value options =>
    [.token <| .statement <| .property
      ⟨key, value, options.valueType, options.symbol, options.text⟩]
  | .and => [.token (.connective .and)]
  | .or => [.token (.connective .or)]
  | .bound d => [.token (.statement (.bound d))]
  | .sort key isAscending => [.sort ⟨key, if isAscending then .ascending else .descending⟩]
  | .sortBy key order =>
    if order = "asc" then [.sort ⟨key, .ascending⟩]
    else if order = "dsc" ∨ order = "desc" then [.sort ⟨key, .descending⟩]
    else []
  | .take n => if 1 ≤ n.toInt ∧ n.toInt ≤ 4294967295 then [.take n.toInt.toNat] else []
  | .group closure returned => [.token (.group (tokensOf ((trails known closure).getD returned [])))]

/-- The trails of all builders of a history: that of the source of each call, and the marks of the call
behind it. -/
def trails (known : List (List Mark)) : List (Nat × BuilderCall) → List (List Mark)
  | [] => known
  | (source, call) :: rest => trails (known ++ [known.getD source [] ++ call.marks known]) rest

end

namespace Builder

/-! ## Failures -/

theorem take_eq_error_iff {b : Builder} {n : Int64} {e : QueryError} :
    b.take n = .error e ↔ e = .invalidTake n ∧ ¬(1 ≤ n.toInt ∧ n.toInt ≤ 4294967295) := by
  rw [← Take.isSome_ofInt?_iff, take]
  cases Take.ofInt? n.toInt with
  | none => simp [eq_comm]
  | some count => simp

theorem count_of_ofInt? {n : Int} {count : Take} (h : Take.ofInt? n = some count) :
    count.count = n.toNat := by
  rw [Take.ofInt?, Option.dite_none_right_eq_some] at h
  obtain ⟨hbounds, hcount⟩ := h
  rw [← Option.some.inj hcount]

theorem ofName?_order (order : String) :
    SortOrder.ofName? order =
      if order = "asc" then some .ascending
      else if order = "dsc" ∨ order = "desc" then some .descending
      else none := by
  unfold SortOrder.ofName?
  split <;> simp_all

theorem sortBy_eq_error_iff {b : Builder} {key order : String} {e : QueryError} :
    b.sortBy key order = .error e ↔ e = .invalidSort order ∧ order ∉ ["asc", "dsc", "desc"] := by
  rw [sortBy, SortOrder.ofText, ofName?_order]
  by_cases hascending : order = "asc"
  · simp [hascending, Except.map]
  by_cases hdescending : order = "dsc" ∨ order = "desc"
  · rcases hdescending with rfl | rfl <;> simp [Except.map]
  · have hother : order ∉ ["asc", "dsc", "desc"] := by
      simpa [hascending] using hdescending
    simp [hascending, hdescending, hother, Except.map, eq_comm]

/-! ## One call -/

/-- Whether a builder is what its trail tells. -/
structure Follows (b : Builder) (trail : List Mark) : Prop where
  tokens : b.tokens = tokensOf trail
  length : b.length = (tokensOf trail).length
  sort : b.sortRule = sortOf? trail
  take : b.takeCount.map Take.count = takeOf? trail

namespace Follows

variable {b : Builder} {trail : List Mark}

theorem new : Follows {} [] where
  tokens := rfl
  length := rfl
  sort := rfl
  take := rfl

theorem push (h : b.Follows trail) (t : Token) : (b.push t).Follows (trail ++ [.token t]) where
  tokens := by
    rw [tokensOf_concat, ← h.tokens]
    exact List.reverse_cons
  length := by
    rw [tokensOf_concat, List.length_append, ← h.length]
    rfl
  sort := by
    rw [sortOf?_concat]
    exact h.sort
  take := by
    rw [takeOf?_concat]
    exact h.take

theorem sorted (h : b.Follows trail) (rule : SortRule) :
    Follows { b with sortRule := some rule } (trail ++ [.sort rule]) where
  tokens := by
    rw [tokensOf_concat]
    exact h.tokens.trans (List.append_nil _).symm
  length := by
    rw [tokensOf_concat, List.length_append]
    exact h.length
  sort := by
    rw [sortOf?_concat]
    rfl
  take := by
    rw [takeOf?_concat]
    exact h.take

theorem taken (h : b.Follows trail) (count : Take) :
    Follows { b with takeCount := some count } (trail ++ [.take count.count]) where
  tokens := by
    rw [tokensOf_concat]
    exact h.tokens.trans (List.append_nil _).symm
  length := by
    rw [tokensOf_concat, List.length_append]
    exact h.length
  sort := by
    rw [sortOf?_concat]
    exact h.sort
  take := by
    rw [takeOf?_concat]
    rfl

/-- A call that fails leaves no mark, and the builder is the one that it was made on. -/
theorem sortBy (h : b.Follows trail) (builders : List Builder) (known : List (List Mark))
    (key order : String) :
    (b.after builders (.sortBy key order)).Follows
      (trail ++ (BuilderCall.sortBy key order).marks known) := by
  rw [after, BuilderCall.marks, Builder.sortBy, SortOrder.ofText, ofName?_order]
  split
  · exact h.sorted ⟨key, .ascending⟩
  · split
    · exact h.sorted ⟨key, .descending⟩
    · rw [List.append_nil]
      exact h

theorem takeCall (h : b.Follows trail) (builders : List Builder) (known : List (List Mark))
    (n : Int64) :
    (b.after builders (.take n)).Follows (trail ++ (BuilderCall.take n).marks known) := by
  rw [after, BuilderCall.marks, Builder.take]
  cases hcount : Take.ofInt? n.toInt with
  | some count =>
    have hbounds : 1 ≤ n.toInt ∧ n.toInt ≤ 4294967295 :=
      (Take.isSome_ofInt?_iff _).1 (by rw [hcount]; rfl)
    rw [if_pos hbounds, ← count_of_ofInt? hcount]
    exact h.taken count
  | none =>
    have hbounds : ¬(1 ≤ n.toInt ∧ n.toInt ≤ 4294967295) := by
      rw [← Take.isSome_ofInt?_iff, hcount]
      simp
    rw [if_neg hbounds, List.append_nil]
    exact h

end Follows

/-! ## Histories -/

theorem length_made (known : List Builder) (calls : List (Nat × BuilderCall)) :
    (made known calls).length = known.length + calls.length := by
  induction calls generalizing known with
  | nil => rw [made, List.length_nil, Nat.add_zero]
  | cons call rest ih =>
    rw [made, ih, List.length_append, List.length_singleton, List.length_cons]
    omega

theorem made_append (known : List Builder) (calls later : List (Nat × BuilderCall)) :
    made known (calls ++ later) = made (made known calls) later := by
  induction calls generalizing known with
  | nil => rw [made, List.nil_append]
  | cons call rest ih => rw [List.cons_append, made, made, ih]

/-- No call changes a builder that is there already. -/
theorem prefix_made (known : List Builder) (calls : List (Nat × BuilderCall)) :
    known <+: made known calls := by
  induction calls generalizing known with
  | nil => exact (by rw [made] : made known [] = known) ▸ List.prefix_rfl
  | cons call rest ih =>
    rw [made]
    exact (List.prefix_append ..).trans (ih _)

/-- Whether builders are what their trails tell, number by number. -/
structure FollowAll (builders : List Builder) (trails : List (List Mark)) : Prop where
  length : builders.length = trails.length
  each : ∀ number, (builders.getD number {}).Follows (trails.getD number [])

theorem FollowAll.nil : FollowAll [] [] where
  length := rfl
  each _ := .new

theorem getD_concat {α : Type} (l : List α) (a d : α) (number : Nat) :
    (l ++ [a]).getD number d = if number = l.length then a else l.getD number d := by
  grind

theorem FollowAll.concat {builders : List Builder} {trails : List (List Mark)} {b : Builder}
    {trail : List Mark} (h : FollowAll builders trails) (hb : b.Follows trail) :
    FollowAll (builders ++ [b]) (trails ++ [trail]) where
  length := by
    rw [List.length_append, List.length_append, h.length]
    rfl
  each number := by
    rw [getD_concat, getD_concat, h.length]
    split
    · exact hb
    · exact h.each number

-- The recursion goes into the closures: the token of a group is told by the trails of a history, in which
-- the builders of before are numbered as well.
mutual

theorem FollowAll.after {builders : List Builder} {known : List (List Mark)}
    (hall : FollowAll builders known) {b : Builder} {trail : List Mark} (h : b.Follows trail) :
    ∀ call : BuilderCall, (b.after builders call).Follows (trail ++ call.marks known)
  | .property key value options => h.push _
  | .and => h.push _
  | .or => h.push _
  | .bound d => h.push _
  | .sort key isAscending => h.sorted _
  | .sortBy key order => h.sortBy builders known key order
  | .take n => h.takeCall builders known n
  | .group closure returned => by
    have hinner := (hall.made closure).each returned
    rw [Builder.after, BuilderCall.marks, ← hinner.tokens]
    exact h.push _

theorem FollowAll.made {builders : List Builder} {known : List (List Mark)}
    (hall : FollowAll builders known) :
    ∀ calls : List (Nat × BuilderCall), FollowAll (Builder.made builders calls) (trails known calls)
  | [] => hall
  | (source, call) :: rest => (hall.concat (hall.after (hall.each source) call)).made rest

end

/-- Each builder of a history has the tokens of its own trail, as many as it counts, and the last sort
order and number to take of that trail; later calls leave the builders as they are.  On any builder the
two calls that may fail do so exactly for a number to take that is out of range and for a word that
names no order. -/
theorem made_follows_trails (calls : List (Nat × BuilderCall)) :
    (made [] calls).length = calls.length ∧
      (∀ number,
        let b := (made [] calls).getD number {}
        let trail := (trails [] calls).getD number []
        b.expression.tokens = tokensOf trail ∧
          b.length = (tokensOf trail).length ∧
          b.expression.sort = sortOf? trail ∧
          b.expression.take.map Take.count = takeOf? trail) ∧
      (∀ later, made [] calls <+: made [] (calls ++ later)) ∧
      (∀ (b : Builder) (n : Int64) (e : QueryError),
        b.take n = .error e ↔ e = .invalidTake n ∧ ¬(1 ≤ n.toInt ∧ n.toInt ≤ 4294967295)) ∧
      ∀ (b : Builder) (key order : String) (e : QueryError),
        b.sortBy key order = .error e ↔ e = .invalidSort order ∧ order ∉ ["asc", "dsc", "desc"] := by
  refine ⟨?_, fun number ↦ ?_, fun later ↦ ?_, fun _ _ _ ↦ take_eq_error_iff,
    fun _ _ _ _ ↦ sortBy_eq_error_iff⟩
  · rw [length_made, List.length_nil, Nat.zero_add]
  · have hb := (FollowAll.nil.made calls).each number
    exact ⟨hb.tokens, hb.length, hb.sort, hb.take⟩
  · rw [made_append]
    exact prefix_made ..

example :
    (made [] [(0, .or), (0, .and), (0, .group [(2, .take 3), (2, .and), (3, .or)] 3)]).map
        Builder.tokens =
      [[.connective .or], [.connective .or, .connective .and],
        [.connective .or, .group [.connective .and]]] := by
  cbv

end Builder

end DocQuery
