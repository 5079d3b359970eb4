import LibDCBridge.World

/-!
# Searching the descriptor table

All three searches of `configuredc.c` have one shape: create an iterator, call
`dc_iterator_next` until it stops returning `DC_STATUS_SUCCESS`, return the first descriptor a
test accepts, free every other one, free the iterator.  `searchLoop` is the loop,
`searchCatalog` the whole idiom, `findFirst` the idiom closing a function the way
`find_descriptor_by_model` and the fallback of `find_descriptor_by_name` close it.

Over every environment, failures included, the idiom leaves exactly the descriptor it returns
on the ledger (`searchCatalog_pushes`, `findFirst_pushes`), and in an environment
where nothing fails it returns the first entry of the table that passes the test
(`searchCatalog_reliable`, `findFirst_reliable`).  A failure only cuts the walk short: whatever
fails, a descriptor the idiom does return is that first entry (`findFirst_sound`).
`create_parser_for_device` frees the descriptor it found, so it only adds the parser.
-/

namespace LibDCBridge

/-- A `dc_descriptor_t *` handed out by `dc_iterator_next`: the live resource and the table
entry it reads. -/
structure DescriptorPtr where
  res : Res
  desc : Descriptor

/-- `dc_descriptor_free`. -/
def dcDescriptorFree (d : DescriptorPtr) : StateM World Unit := release d.res

/-- `dc_iterator_free`. -/
def dcIteratorFree (it : Res) : StateM World Unit := release it

/-- The error a search that found nothing reports. -/
def orUnsupported : Option Descriptor → Except Status Descriptor
  | some d => .ok d
  | none => .error .unsupported

/-- How `findFirst` turns the outcome of a search into its own. -/
def closeSearch : Except Status (Option DescriptorPtr) → Except Status DescriptorPtr
  | .error rc => .error rc
  | .ok (some d) => .ok d
  | .ok none => .error .unsupported

/-- The first entry of `catalog` with a family and model: what `find_descriptor_by_model` looks
for. -/
def pairEntry (catalog : List Descriptor) (family model : Nat) : Option Descriptor :=
  catalog.find? fun e => e.type == family && e.model == model

section Search

variable (env : Env)

/-- `while ((rc = dc_iterator_next (iterator, &descriptor)) == DC_STATUS_SUCCESS)`: the
descriptor that passes `test` is returned, every other one is freed.  `rest` is what the
iterator has not yet yielded; each call to `dc_iterator_next` may fail. -/
def searchLoop (test : Descriptor → Bool) : List Descriptor → StateM World (Option DescriptorPtr)
  | [] => do
    let _ ← nextOutcome env
    return none
  | d :: rest => do
    if (← nextOutcome env) ≠ .success then return none
    let r ← acquire .descriptor
    if test d then return some ⟨r, d⟩
    dcDescriptorFree ⟨r, d⟩
    searchLoop test rest

/-- `dc_descriptor_iterator`, the loop, `dc_iterator_free`. -/
def searchCatalog (test : Descriptor → Bool) :
    StateM World (Except Status (Option DescriptorPtr)) := do
  match ← create env .iterator with
  | .error rc => return .error rc
  | .ok it => do
    let found ← searchLoop env test env.catalog
    dcIteratorFree it
    return .ok found

/-- A search that ends its function: `DC_STATUS_UNSUPPORTED` when nothing passes. -/
def findFirst (test : Descriptor → Bool) : StateM World (Except Status DescriptorPtr) := do
  match ← searchCatalog env test with
  | .error rc => return .error rc
  | .ok (some d) => return .ok d
  | .ok none => return .error .unsupported

/-- `find_descriptor_by_model`. -/
def findDescriptorByModel (family model : Nat) : StateM World (Except Status DescriptorPtr) :=
  findFirst env fun d => d.type == family && d.model == model

/-- `dc_parser_new2`: a parser, or the failing status. -/
def dcParserNew2 : StateM World (Except Status Res) := create env .parser

/-- `create_parser_for_device`. -/
def createParserForDevice (family model : Nat) : StateM World (Except Status Res) := do
  match ← findDescriptorByModel env family model with
  | .error rc => return .error rc
  | .ok descriptor => do
    let rc ← dcParserNew2 env
    dcDescriptorFree descriptor
    return rc

end Search

/-! ### The loop -/

section Loop

variable {env : Env} (test : Descriptor → Bool)

theorem searchLoop_cons (d : Descriptor) (rest : List Descriptor) (w : World) :
    searchLoop env test (d :: rest) w =
      if env.outcome w.calls ≠ .success then (none, w.tick)
      else if test d then (some ⟨⟨.descriptor, w.next⟩, d⟩, w.tick.push .descriptor)
      else searchLoop env test rest { w.tick with next := w.next + 1 } := by
  by_cases h : env.outcome w.calls = .success <;> by_cases ht : test d <;>
    simp [searchLoop, h, ht, dcDescriptorFree,
      World.tick, World.push]

/-- **The loop frees every descriptor but the one it returns.** -/
theorem searchLoop_pushes : ∀ (rest : List Descriptor) (w : World),
    Pushes w (searchLoop env test rest w).2 ((searchLoop env test rest w).1.map (·.res)).toList
  | [], w => ⟨rfl, rfl, rfl, le_rfl⟩
  | d :: rest, w => by
    rw [searchLoop_cons]
    split_ifs
    · exact ⟨rfl, rfl, rfl, le_rfl⟩
    · exact ⟨rfl, rfl, rfl, Nat.le_succ _⟩
    · have h₁ : Pushes w { w.tick with next := w.next + 1 } [] := ⟨rfl, rfl, rfl, Nat.le_succ _⟩
      exact h₁.nil_trans (searchLoop_pushes rest _)

theorem searchLoop_kind : ∀ (rest : List Descriptor) (w : World) (p : DescriptorPtr),
    (searchLoop env test rest w).1 = some p → p.res.kind = .descriptor
  | [], w, p => by simp [searchLoop]
  | d :: rest, w, p => by
    rw [searchLoop_cons]
    split_ifs
    · simp
    · rintro ⟨⟩; rfl
    · exact searchLoop_kind rest _ p

/-- When no call fails the loop returns the first entry that passes. -/
theorem searchLoop_reliable (h : env.Reliable) : ∀ (rest : List Descriptor) (w : World),
    (searchLoop env test rest w).1.map (·.desc) = rest.find? test
  | [], w => rfl
  | d :: rest, w => by
    rw [searchLoop_cons, if_neg (by simp [h w.calls])]
    by_cases ht : test d
    · simp [ht]
    · simp [ht, searchLoop_reliable h rest]

/-- Whatever fails, a descriptor the loop returns is the first entry that passes: the walk
starts at the head and stops at the first failed call. -/
theorem searchLoop_sound : ∀ (rest : List Descriptor) (w : World) (p : DescriptorPtr),
    (searchLoop env test rest w).1 = some p → rest.find? test = some p.desc
  | [], w, p => by simp [searchLoop]
  | d :: rest, w, p => by
    rw [searchLoop_cons]
    split_ifs with hc ht
    · simp
    · rintro ⟨⟩
      simp [ht]
    · intro h
      simpa [ht] using searchLoop_sound rest _ p h

/-- A loop that returns a descriptor made one successful call per entry up to the first that
passes, and handed out one address per entry: the descriptor has the last. -/
theorem searchLoop_some : ∀ (rest : List Descriptor) (w : World) (p : DescriptorPtr),
    (searchLoop env test rest w).1 = some p → ∃ i, rest.findIdx? test = some i ∧
      (∀ k < i + 1, env.outcome (w.calls + k) = .success) ∧ p.res = ⟨.descriptor, w.next + i⟩ ∧
      (searchLoop env test rest w).2.calls = w.calls + i + 1 ∧
      (searchLoop env test rest w).2.next = w.next + i + 1
  | [], w, p => by simp [searchLoop]
  | d :: rest, w, p => by
    rw [searchLoop_cons]
    split_ifs with hc ht
    · simp
    · rintro ⟨⟩
      refine ⟨0, by simp [List.findIdx?_cons, ht], fun k hk => ?_, rfl, rfl, rfl⟩
      obtain rfl : k = 0 := by omega
      simpa using hc
    · intro h
      obtain ⟨i, hi, hk, hp, hcalls, hnext⟩ := searchLoop_some rest _ p h
      refine ⟨i + 1, by simp [List.findIdx?_cons, ht, List.findIdx?_succ, hi], fun k hk' => ?_,
        by simp [hp]; omega, hcalls.trans (by dsimp; omega), hnext.trans (by dsimp; omega)⟩
      rcases k with _ | k
      · simpa using hc
      · simpa [Nat.add_assoc, Nat.add_comm 1] using hk k (by omega)

/-- A loop that returns nothing saw a call fail before the first entry that passes, or there is
no such entry. -/
theorem searchLoop_none : ∀ (rest : List Descriptor) (w : World),
    (searchLoop env test rest w).1 = none → ∀ i, rest.findIdx? test = some i →
      ∃ k < i + 1, env.outcome (w.calls + k) ≠ .success
  | [], w, _, i, hi => by simp at hi
  | d :: rest, w, h, i, hi => by
    rw [searchLoop_cons] at h
    split_ifs at h with hc ht
    · exact ⟨0, by omega, hc⟩
    · rw [List.findIdx?_cons, if_neg ht, List.findIdx?_succ] at hi
      obtain ⟨j, hj, rfl⟩ := Option.map_eq_some'.mp hi
      obtain ⟨k, hk, hk'⟩ := searchLoop_none rest _ h j hj
      exact ⟨k + 1, by omega, by simpa [Nat.add_assoc, Nat.add_comm 1] using hk'⟩

end Loop

/-! ### The idiom -/

section Idiom

variable {env : Env} (test : Descriptor → Bool) (w : World)

theorem searchCatalog_apply :
    searchCatalog env test w =
      if env.outcome w.calls = .success then
        (.ok (searchLoop env test env.catalog (w.tick.push .iterator)).1,
          (release ⟨.iterator, w.next⟩
            (searchLoop env test env.catalog (w.tick.push .iterator)).2).2)
      else (.error (env.outcome w.calls), w.tick) := by
  by_cases h : env.outcome w.calls = .success <;>
    simp [searchCatalog, create_apply, h, dcIteratorFree]

/-- **The iterator is freed, and only the returned descriptor stays live.** -/
theorem searchCatalog_pushes :
    Pushes w (searchCatalog env test w).2
      (((searchCatalog env test w).1.toOption.join).map (·.res)).toList := by
  rw [searchCatalog_apply]
  split_ifs
  · obtain ⟨hl, hf, hg, hn⟩ := searchLoop_pushes test env.catalog (w.tick.push .iterator)
    have hne : ∀ r ∈ ((searchLoop env test env.catalog (w.tick.push .iterator)).1.map
        (·.res)).toList, r ≠ ⟨.iterator, w.next⟩ := by
      intro r hr
      obtain ⟨p, hp, rfl⟩ := Option.mem_toList.mp hr |> Option.mem_map.mp
      refine ne_of_kind_ne ?_
      simp [searchLoop_kind test _ _ p hp]
    refine ⟨?_, ?_, hg, Nat.le_of_succ_le hn⟩
    · simp only [release_apply, hl, Except.toOption, Option.join, Option.some_bind, id_eq,
        World.push_live, World.tick_live, World.tick_next]
      rw [List.erase_append_right _ (fun hm => hne _ hm rfl), List.erase_cons_head]
    · simp [hf, hl]
  · exact ⟨rfl, rfl, rfl, le_rfl⟩

theorem searchCatalog_reliable (h : env.Reliable) :
    (searchCatalog env test w).1 = .ok (searchLoop env test env.catalog (w.tick.push .iterator)).1 ∧
    ((searchLoop env test env.catalog (w.tick.push .iterator)).1).map (·.desc) =
      env.catalog.find? test := by
  rw [searchCatalog_apply, if_pos (h w.calls)]
  exact ⟨rfl, searchLoop_reliable test h _ _⟩

theorem searchCatalog_kind (p : DescriptorPtr) :
    (searchCatalog env test w).1 = .ok (some p) → p.res.kind = .descriptor := by
  rw [searchCatalog_apply]
  split_ifs
  · exact fun h => searchLoop_kind test _ _ p (Except.ok.inj h)
  · simp

theorem findFirst_apply :
    findFirst env test w =
      (closeSearch (searchCatalog env test w).1, (searchCatalog env test w).2) := by
  rcases h : searchCatalog env test w with ⟨r, w'⟩
  rcases r with rc | _ | p <;> simp [findFirst, h, closeSearch]

/-- **A search frees its iterator and every descriptor but the one it returns.** -/
theorem findFirst_pushes :
    Pushes w (findFirst env test w).2 (((findFirst env test w).1.toOption).map (·.res)).toList := by
  rw [findFirst_apply]
  have := @searchCatalog_pushes env test w
  revert this
  rcases (searchCatalog env test w).1 with rc | _ | p <;> exact id

theorem findFirst_kind (p : DescriptorPtr) :
    (findFirst env test w).1 = .ok p → p.res.kind = .descriptor := by
  rw [findFirst_apply]
  have := @searchCatalog_kind env test w
  revert this
  rcases (searchCatalog env test w).1 with rc | _ | q <;> simp [closeSearch]
  exact fun h e => e ▸ h

theorem searchCatalog_sound {p : DescriptorPtr} (h : (searchCatalog env test w).1 = .ok (some p)) :
    env.catalog.find? test = some p.desc := by
  rw [searchCatalog_apply] at h
  split_ifs at h
  exact searchLoop_sound test _ _ p (Except.ok.inj h)

/-- Whatever fails, a descriptor a search returns is the first entry of the table that
passes. -/
theorem findFirst_sound {p : DescriptorPtr} (h : (findFirst env test w).1 = .ok p) :
    env.catalog.find? test = some p.desc := by
  rw [findFirst_apply] at h
  rcases hs : (searchCatalog env test w).1 with rc | _ | q <;> rw [hs] at h <;> cases h
  exact searchCatalog_sound test w hs

/-- A search that returns a descriptor made every call up to it without failure: the
iterator's, then one `dc_iterator_next` per entry up to the first that passes. -/
theorem findFirst_ok {p : DescriptorPtr} (h : (findFirst env test w).1 = .ok p) :
    env.outcome w.calls = .success ∧ ∃ i, env.catalog.findIdx? test = some i ∧
      (∀ k < i + 1, env.outcome (w.calls + 1 + k) = .success) ∧
      p.res = ⟨.descriptor, w.next + 1 + i⟩ ∧
      (findFirst env test w).2.calls = w.calls + i + 2 ∧
      (findFirst env test w).2.next = w.next + i + 2 := by
  rw [findFirst_apply, searchCatalog_apply] at h ⊢
  split_ifs at h ⊢ with hc
  · rcases hs : (searchLoop env test env.catalog (w.tick.push .iterator)).1 with _ | q <;>
      rw [hs] at h <;> cases h
    obtain ⟨i, hi, hk, hp, hcalls, hnext⟩ := searchLoop_some test _ _ p hs
    refine ⟨hc, i, hi, by simpa using hk, by simpa using hp, ?_, ?_⟩ <;>
      simp [hcalls, hnext] <;> omega
  · cases h

/-- A search fails as its iterator does, or with `DC_STATUS_UNSUPPORTED` when a call failed
before the first entry that passes, or there is no such entry. -/
theorem findFirst_error_cases {rc : Status} (h : (findFirst env test w).1 = .error rc) :
    env.outcome w.calls ≠ .success ∧ rc = env.outcome w.calls ∨
      env.outcome w.calls = .success ∧ rc = .unsupported ∧
        ∀ i, env.catalog.findIdx? test = some i →
          ∃ k < i + 1, env.outcome (w.calls + 1 + k) ≠ .success := by
  rw [findFirst_apply, searchCatalog_apply] at h
  split_ifs at h with hc
  · rcases hs : (searchLoop env test env.catalog (w.tick.push .iterator)).1 with _ | q <;>
      rw [hs] at h <;> cases h
    exact .inr ⟨hc, rfl, fun i hi => by simpa using searchLoop_none test _ _ hs i hi⟩
  · cases h
    exact .inl ⟨hc, rfl⟩

/-- When nothing fails, a search returns the first entry of the table that passes. -/
theorem findFirst_reliable (h : env.Reliable) :
    (findFirst env test w).1.map (·.desc) = orUnsupported (env.catalog.find? test) := by
  obtain ⟨h₁, h₂⟩ := searchCatalog_reliable test w h
  rw [findFirst_apply, h₁, ← h₂]
  rcases (searchLoop env test env.catalog (w.tick.push .iterator)).1 with _ | p <;> rfl

end Idiom

/-! ### Parsers -/

/-- `create_parser_for_device` frees the descriptor it looked up: only the parser stays. -/
theorem createParserForDevice_pushes (env : Env) (family model : Nat) (w : World) :
    Pushes w (createParserForDevice env family model w).2
      ((createParserForDevice env family model w).1.toOption).toList ∧
    ∀ r ∈ (createParserForDevice env family model w).1.toOption, r.kind = .parser := by
  have hf := @findFirst_pushes env (fun d => d.type == family && d.model == model) w
  have hk := @findFirst_kind env (fun d => d.type == family && d.model == model) w
  rcases h : findFirst env (fun d => d.type == family && d.model == model) w with ⟨rc | p, w₁⟩
  · rw [h] at hf
    simp only [createParserForDevice, findDescriptorByModel, h, bind_apply, pure_apply]
    exact ⟨hf, by simp [Except.toOption]⟩
  · rw [h] at hf hk
    have hne : ∀ n, (⟨.parser, n⟩ : Res) ≠ p.res := fun n => ne_of_kind_ne (by simp [hk p rfl])
    simp only [createParserForDevice, findDescriptorByModel, h, bind_apply, dcParserNew2,
      create_apply, dcDescriptorFree, pure_apply]
    have hp : Pushes w w₁ [p.res] := by simpa using hf
    split_ifs
    · have h₂ : Pushes w₁ (w₁.tick.push .parser) [⟨.parser, w₁.next⟩] :=
        ⟨rfl, rfl, rfl, Nat.le_succ _⟩
      refine ⟨(hp.trans h₂).release_under (by simpa using (hne w₁.next).symm), fun r hr => ?_⟩
      obtain rfl : r = ⟨.parser, w₁.next⟩ := (Option.some.inj hr).symm
      rfl
    · exact ⟨(show Pushes w w₁ ([] ++ [p.res]) from hp).release_under (by simp), nofun⟩

end LibDCBridge
