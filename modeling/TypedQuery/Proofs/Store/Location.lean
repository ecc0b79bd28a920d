import TypedQuery.Proofs.Path.Step
import TypedQuery.Store.Files

/-! Where paths lead: at best to a location that only the links of a file system decide. -/
namespace TypedQuery

def Place.loc : Place → Location
  | .found loc => loc
  | .missing loc => loc

namespace Store

/-- Where steps lead if the directories on the way are there, with `jump` for those that a link
leads to, and how many more links may be followed from there. -/
def followVia (store : Store) (jump : Location → List Name → Option (Nat × Location)) (links : Nat)
    (loc : Location) : List Name → Option (Nat × Location)
  | [] => some (links, loc)
  | name :: rest =>
    if name = [Path.dot] then store.followVia jump links loc rest
    else if name = [Path.dot, Path.dot] then store.followVia jump links loc.dropLast rest
    else
      match store.get? (loc ++ [name]) with
      | some (.link target) => jump (if target.isAbsolute then [] else loc) (target.steps ++ rest)
      | _ => store.followVia jump links (loc ++ [name]) rest

/-- Where steps lead if the directories on the way are there, and how many more links may be
followed from there. -/
def follow (store : Store) : (links : Nat) → Location → List Name → Option (Nat × Location)
  | 0 => store.followVia (fun _ _ => none) 0
  | links + 1 => store.followVia (fun loc steps => store.follow links loc steps) (links + 1)

/-- The location that a path leads to if the directories on the way are there. -/
def location? (store : Store) (cwd : Location) (path : Path) : Option Location :=
  (store.follow linkLimit (if path.isAbsolute then [] else cwd) path.steps).map (·.2)

/-- The path leads to the location, where the entry itself may be missing. -/
def Leads (store : Store) (cwd : Location) (path : Path) (loc : Location) : Prop :=
  ∃ place, store.place cwd path = .ok place ∧ place.loc = loc

/-- The content of the file at a location. -/
def content? (store : Store) (loc : Location) : Option ByteArray :=
  match store.get? loc with
  | some (.file content) => some content
  | _ => none

/-- The content of the file that a path leads to if the directories on the way are there. -/
def fileAt? (store : Store) (cwd : Location) (path : Path) : Option ByteArray :=
  (store.location? cwd path).bind store.content?

/-- The text of that file, if it holds one. -/
def textAt? (store : Store) (cwd : Location) (path : Path) : Option String :=
  (store.fileAt? cwd path).bind String.fromUTF8?

/-- The same links at the same locations. -/
def SameLinks (a b : Store) : Prop :=
  ∀ loc target, a.get? loc = some (.link target) ↔ b.get? loc = some (.link target)

variable {store : Store} {cwd loc : Location} {path : Path} {name : Name} {steps : List Name}

section Follow

variable {links : Nat}

theorem follow_nil : store.follow links loc [] = some (links, loc) := by cases links <;> rfl

theorem follow_dot :
    store.follow links loc ([Path.dot] :: steps) = store.follow links loc steps := by
  cases links <;> rw [follow, followVia, if_pos rfl]

theorem follow_dots :
    store.follow links loc ([Path.dot, Path.dot] :: steps) =
      store.follow links loc.dropLast steps := by
  cases links <;> rw [follow, followVia, if_neg (by decide), if_pos rfl]

theorem follow_plain (hdot : name ≠ [Path.dot]) (hdots : name ≠ [Path.dot, Path.dot])
    (hlink : ∀ target, store.get? (loc ++ [name]) ≠ some (.link target)) :
    store.follow links loc (name :: steps) = store.follow links (loc ++ [name]) steps := by
  cases links <;> rw [follow, followVia, if_neg hdot, if_neg hdots] <;> split
  · next target htarget => exact absurd htarget (hlink target)
  · rfl
  · next target htarget => exact absurd htarget (hlink target)
  · rfl

theorem follow_link {target : Path} (hdot : name ≠ [Path.dot]) (hdots : name ≠ [Path.dot, Path.dot])
    (htarget : store.get? (loc ++ [name]) = some (.link target)) :
    store.follow (links + 1) loc (name :: steps) =
      store.follow links (if target.isAbsolute then [] else loc) (target.steps ++ steps) := by
  rw [follow, followVia, if_neg hdot, if_neg hdots, htarget]

theorem follow_zero_link {target : Path} (hdot : name ≠ [Path.dot])
    (hdots : name ≠ [Path.dot, Path.dot])
    (htarget : store.get? (loc ++ [name]) = some (.link target)) :
    store.follow 0 loc (name :: steps) = none := by
  rw [follow, followVia, if_neg hdot, if_neg hdots, htarget]

/-- Induction along steps. A link leads to any steps, but fewer links may be followed from there. -/
theorem steps_induction (store : Store) {motive : Nat → Location → List Name → Prop}
    (nil : ∀ links loc, motive links loc [])
    (dot : ∀ links loc rest, motive links loc rest → motive links loc ([Path.dot] :: rest))
    (dots : ∀ links loc rest, motive links loc.dropLast rest →
      motive links loc ([Path.dot, Path.dot] :: rest))
    (plain : ∀ links loc name rest, name ≠ [Path.dot] → name ≠ [Path.dot, Path.dot] →
      (∀ target, store.get? (loc ++ [name]) ≠ some (.link target)) →
      motive links (loc ++ [name]) rest → motive links loc (name :: rest))
    (last : ∀ loc name rest target, name ≠ [Path.dot] → name ≠ [Path.dot, Path.dot] →
      store.get? (loc ++ [name]) = some (.link target) → motive 0 loc (name :: rest))
    (link : ∀ links loc name rest target, name ≠ [Path.dot] → name ≠ [Path.dot, Path.dot] →
      store.get? (loc ++ [name]) = some (.link target) →
      motive links (if target.isAbsolute then [] else loc) (target.steps ++ rest) →
      motive (links + 1) loc (name :: rest))
    (links : Nat) (loc : Location) (steps : List Name) : motive links loc steps := by
  have hsteps : ∀ links, (∀ loc name rest target, name ≠ [Path.dot] →
      name ≠ [Path.dot, Path.dot] → store.get? (loc ++ [name]) = some (.link target) →
      motive links loc (name :: rest)) → ∀ loc steps, motive links loc steps := by
    intro links hlinked loc steps
    induction steps generalizing loc with
    | nil => exact nil links loc
    | cons name rest ih =>
      by_cases hdot : name = [Path.dot]
      · exact hdot ▸ dot links loc rest (ih loc)
      by_cases hdots : name = [Path.dot, Path.dot]
      · exact hdots ▸ dots links loc rest (ih loc.dropLast)
      by_cases hlink : ∃ target, store.get? (loc ++ [name]) = some (.link target)
      · obtain ⟨target, htarget⟩ := hlink
        exact hlinked loc name rest target hdot hdots htarget
      · exact plain links loc name rest hdot hdots (not_exists.mp hlink) (ih (loc ++ [name]))
  induction links generalizing loc steps with
  | zero => exact hsteps 0 last loc steps
  | succ links ih =>
    refine hsteps (links + 1) (fun loc name rest target hdot hdots htarget => ?_) loc steps
    exact link links loc name rest target hdot hdots htarget (ih _ _)

theorem follow_append (more : List Name) : store.follow links loc (steps ++ more) =
    (store.follow links loc steps).bind fun arrived => store.follow arrived.1 arrived.2 more := by
  induction links, loc, steps using steps_induction store with
  | nil => rw [follow_nil]; rfl
  | dot links loc rest ih => rw [List.cons_append, follow_dot, follow_dot, ih]
  | dots links loc rest ih => rw [List.cons_append, follow_dots, follow_dots, ih]
  | plain links loc name rest hdot hdots hlink ih =>
    rw [List.cons_append, follow_plain hdot hdots hlink, follow_plain hdot hdots hlink, ih]
  | last loc name rest target hdot hdots htarget =>
    rw [List.cons_append, follow_zero_link hdot hdots htarget, follow_zero_link hdot hdots htarget]
    rfl
  | link links loc name rest target hdot hdots htarget ih =>
    rw [List.cons_append, follow_link hdot hdots htarget, follow_link hdot hdots htarget,
      ← List.append_assoc, ih]

theorem follow_congr {other : Store} (h : SameLinks store other) :
    other.follow links loc steps = store.follow links loc steps := by
  induction links, loc, steps using steps_induction store with
  | nil => rw [follow_nil, follow_nil]
  | dot links loc rest ih => rw [follow_dot, follow_dot, ih]
  | dots links loc rest ih => rw [follow_dots, follow_dots, ih]
  | plain links loc name rest hdot hdots hlink ih =>
    have hlink' : ∀ target, other.get? (loc ++ [name]) ≠ some (.link target) :=
      fun target htarget => hlink target ((h _ _).mpr htarget)
    rw [follow_plain hdot hdots hlink', follow_plain hdot hdots hlink, ih]
  | last loc name rest target hdot hdots htarget =>
    rw [follow_zero_link hdot hdots ((h _ _).mp htarget), follow_zero_link hdot hdots htarget]
  | link links loc name rest target hdot hdots htarget ih =>
    rw [follow_link hdot hdots ((h _ _).mp htarget), follow_link hdot hdots htarget, ih]

end Follow

/-- The ways that steps can take to a place. Every directory on the way is there. -/
inductive Walks (store : Store) : Nat → Location → List Name → Place → Prop where
  | stay {links loc} : Walks store links loc [] (.found loc)
  | dot {links loc rest place} (hdir : store.get? loc = some .dir)
      (htail : Walks store links loc rest place) : Walks store links loc ([Path.dot] :: rest) place
  | dots {links loc rest place} (hdir : store.get? loc = some .dir)
      (htail : Walks store links loc.dropLast rest place) :
      Walks store links loc ([Path.dot, Path.dot] :: rest) place
  | missing {links loc name} (hdir : store.get? loc = some .dir) (hlength : name.length ≤ nameLimit)
      (hdot : name ≠ [Path.dot]) (hdots : name ≠ [Path.dot, Path.dot])
      (hnone : store.get? (loc ++ [name]) = none) :
      Walks store links loc [name] (.missing (loc ++ [name]))
  | link {links loc name rest place target} (hdir : store.get? loc = some .dir)
      (hlength : name.length ≤ nameLimit) (hdot : name ≠ [Path.dot])
      (hdots : name ≠ [Path.dot, Path.dot])
      (htarget : store.get? (loc ++ [name]) = some (.link target))
      (htail : Walks store links (if target.isAbsolute then [] else loc) (target.steps ++ rest)
        place) : Walks store (links + 1) loc (name :: rest) place
  | entry {links loc name rest place entry} (hdir : store.get? loc = some .dir)
      (hlength : name.length ≤ nameLimit) (hdot : name ≠ [Path.dot])
      (hdots : name ≠ [Path.dot, Path.dot]) (hentry : store.get? (loc ++ [name]) = some entry)
      (hlink : ∀ target, entry ≠ .link target)
      (htail : Walks store links (loc ++ [name]) rest place) :
      Walks store links loc (name :: rest) place

section Walk

variable {links : Nat} {place : Place}

theorem walk_nil : store.walk links loc [] = .ok (.found loc) := by cases links <;> rfl

theorem walk_cons : store.walk links loc (name :: steps) =
    if store.get? loc ≠ some .dir then .error .notADirectory
    else if nameLimit < name.length then .error .nameTooLong
    else if name = [Path.dot] then store.walk links loc steps
    else if name = [Path.dot, Path.dot] then store.walk links loc.dropLast steps
    else
      match store.get? (loc ++ [name]) with
      | none => if steps = [] then .ok (.missing (loc ++ [name])) else .error .notFound
      | some (.link target) =>
        match links with
        | 0 => .error .tooManyLinks
        | links + 1 =>
          store.walk links (if target.isAbsolute then [] else loc) (target.steps ++ steps)
      | some _ => store.walk links (loc ++ [name]) steps := by
  cases links <;> rfl

/-- Every step is taken from a directory. -/
theorem get?_of_walk_cons (h : store.walk links loc (name :: steps) = .ok place) :
    store.get? loc = some .dir ∧ name.length ≤ nameLimit := by
  rw [walk_cons] at h
  split at h
  · cases h
  · next hdir =>
    split at h
    · cases h
    · next hlength => exact ⟨not_not.mp hdir, Nat.le_of_not_lt hlength⟩

theorem walks_of_walk (h : store.walk links loc steps = .ok place) :
    Walks store links loc steps place := by
  induction links, loc, steps using steps_induction store with
  | nil links loc =>
    rw [walk_nil] at h
    cases h
    exact .stay
  | dot links loc rest ih =>
    obtain ⟨hdir, hlength⟩ := get?_of_walk_cons h
    rw [walk_cons, if_neg (not_not.mpr hdir), if_neg (Nat.not_lt.mpr hlength), if_pos rfl] at h
    exact .dot hdir (ih h)
  | dots links loc rest ih =>
    obtain ⟨hdir, hlength⟩ := get?_of_walk_cons h
    rw [walk_cons, if_neg (not_not.mpr hdir), if_neg (Nat.not_lt.mpr hlength),
      if_neg (by decide), if_pos rfl] at h
    exact .dots hdir (ih h)
  | plain links loc name rest hdot hdots hlink ih =>
    obtain ⟨hdir, hlength⟩ := get?_of_walk_cons h
    rw [walk_cons, if_neg (not_not.mpr hdir), if_neg (Nat.not_lt.mpr hlength), if_neg hdot,
      if_neg hdots] at h
    split at h
    · next hnone =>
      split at h
      · next hrest =>
        cases h
        subst hrest
        exact .missing hdir hlength hdot hdots hnone
      · cases h
    · next target htarget => exact absurd htarget (hlink target)
    · next entry _ hentry =>
      have hplain : ∀ target, entry ≠ .link target := fun target heq => hlink target (heq ▸ hentry)
      exact .entry hdir hlength hdot hdots hentry hplain (ih h)
  | last loc name rest target hdot hdots htarget =>
    obtain ⟨hdir, hlength⟩ := get?_of_walk_cons h
    rw [walk_cons, if_neg (not_not.mpr hdir), if_neg (Nat.not_lt.mpr hlength), if_neg hdot,
      if_neg hdots, htarget] at h
    cases h
  | link links loc name rest target hdot hdots htarget ih =>
    obtain ⟨hdir, hlength⟩ := get?_of_walk_cons h
    rw [walk_cons, if_neg (not_not.mpr hdir), if_neg (Nat.not_lt.mpr hlength), if_neg hdot,
      if_neg hdots, htarget] at h
    exact .link hdir hlength hdot hdots htarget (ih h)

theorem Walks.walk_eq (h : Walks store links loc steps place) :
    store.walk links loc steps = .ok place := by
  induction h with
  | stay => exact walk_nil
  | dot hdir _ ih => rw [walk_cons, if_neg (not_not.mpr hdir), if_neg (by decide), if_pos rfl, ih]
  | dots hdir _ ih =>
    rw [walk_cons, if_neg (not_not.mpr hdir), if_neg (by decide), if_neg (by decide), if_pos rfl,
      ih]
  | missing hdir hlength hdot hdots hnone =>
    rw [walk_cons, if_neg (not_not.mpr hdir), if_neg (Nat.not_lt.mpr hlength), if_neg hdot,
      if_neg hdots, hnone]
    rfl
  | link hdir hlength hdot hdots htarget _ ih =>
    rw [walk_cons, if_neg (not_not.mpr hdir), if_neg (Nat.not_lt.mpr hlength), if_neg hdot,
      if_neg hdots, htarget]
    exact ih
  | @entry _ _ _ _ _ entry hdir hlength hdot hdots hentry hlink _ ih =>
    rw [walk_cons, if_neg (not_not.mpr hdir), if_neg (Nat.not_lt.mpr hlength), if_neg hdot,
      if_neg hdots, hentry]
    cases entry with
    | file content => exact ih
    | dir => exact ih
    | link target => exact absurd rfl (hlink target)

end Walk

/-- A walk that arrives takes the way that the links decide. -/
theorem Walks.follow_eq {links : Nat} {place : Place} (h : Walks store links loc steps place) :
    ∃ left, store.follow links loc steps = some (left, place.loc) := by
  induction h with
  | stay => exact ⟨_, follow_nil⟩
  | dot _ _ ih => rwa [follow_dot]
  | dots _ _ ih => rwa [follow_dots]
  | missing _ _ hdot hdots hnone =>
    rw [follow_plain hdot hdots (by simp [hnone]), follow_nil]
    exact ⟨_, rfl⟩
  | link _ _ hdot hdots htarget _ ih => rwa [follow_link hdot hdots htarget]
  | entry _ _ hdot hdots hentry hlink _ ih =>
    have hplain : ∀ target, store.get? (_ ++ [_]) ≠ some (.link target) := fun target htarget =>
      hlink target (Option.some.inj (hentry.symm.trans htarget))
    rwa [follow_plain hdot hdots hplain]

section Location

/-- A slash at the end changes nothing. -/
theorem follow_steps (links : Nat) :
    store.follow links loc path.steps = store.follow links loc path.writtenSteps := by
  rw [Path.steps_eq, follow_append]
  split
  · cases store.follow links loc path.writtenSteps with
    | none => rfl
    | some arrived => exact (follow_dot.trans follow_nil : _ = some arrived)
  · cases store.follow links loc path.writtenSteps with
    | none => rfl
    | some arrived => exact (follow_nil : _ = some arrived)

theorem location?_congr {other : Store} (h : SameLinks store other) :
    other.location? cwd path = store.location? cwd path := by
  rw [location?, location?, follow_congr h]

theorem location?_join_eq_bind (hname : IsPlainName name) :
    store.location? cwd (path.join ⟨name⟩) =
      (store.follow linkLimit (if path.isAbsolute then [] else cwd) path.steps).bind
        fun arrived => (store.follow arrived.1 arrived.2 [name]).map (·.2) := by
  rw [location?, Path.isAbsolute_join hname, Path.steps_join hname, follow_append, follow_steps,
    Option.map_bind]
  rfl

/-- A name that is no link leads to the entry of that name. -/
theorem location?_join {dir : Location} (hname : IsPlainName name)
    (hdir : store.location? cwd path = some dir)
    (hlink : ∀ target, store.get? (dir ++ [name]) ≠ some (.link target)) :
    store.location? cwd (path.join ⟨name⟩) = some (dir ++ [name]) := by
  obtain ⟨arrived, hfollow, rfl⟩ := Option.map_eq_some_iff.mp hdir
  rw [location?_join_eq_bind hname, hfollow, Option.bind_some,
    follow_plain hname.ne_dot hname.ne_dots hlink, follow_nil]
  rfl

theorem exists_location?_of_join (hname : IsPlainName name)
    (h : store.location? cwd (path.join ⟨name⟩) = some loc) :
    ∃ dir, store.location? cwd path = some dir := by
  rw [location?_join_eq_bind hname] at h
  obtain ⟨arrived, hfollow, _⟩ := Option.bind_eq_some_iff.mp h
  exact ⟨arrived.2, by rw [location?, hfollow]; rfl⟩

theorem place_ne_nil {place : Place} (h : store.place cwd path = .ok place) : path.bytes ≠ [] := by
  intro hnil
  simp [Store.place, Path.fault?, hnil] at h

theorem place_of_resolve (h : store.resolve cwd path = .ok loc) :
    store.place cwd path = .ok (.found loc) := by
  unfold resolve at h
  split at h
  · next found hplace =>
    cases h
    exact hplace
  · cases h
  · cases h

theorem walks_of_place {place : Place} (h : store.place cwd path = .ok place) :
    store.Walks linkLimit (if path.isAbsolute then [] else cwd) path.steps place := by
  unfold Store.place at h
  split at h
  · cases h
  · exact walks_of_walk h

theorem Leads.location?_eq (h : store.Leads cwd path loc) :
    store.location? cwd path = some loc := by
  obtain ⟨place, hplace, rfl⟩ := h
  obtain ⟨left, hfollow⟩ := (walks_of_place hplace).follow_eq
  rw [location?, hfollow]
  rfl

end Location

end Store
end TypedQuery
