import NatProxy.Db.SessionDb

/-!
# The mirror of the session table in Redis

The table is keyed by session id, the hashes by guid. `Mirrors` is the relation
between the two that the database is there for. An operation keeps it as long as
the guids of the table are distinct and an added record brings a new id and a new
guid: `insert` would keep an old record of the id while `HMSET` writes the new
one, and the deletion of one of two records with one guid would delete the hash
of the other.
-/

namespace NatProxy

namespace DbStore

/-- The hash of a guid has its fields exactly when the table has a record with that
guid, and then they are the fields of the record. -/
structure Mirrors (s : DbStore) : Prop where
  present : ∀ k info, s.db.lookup k = some info →
    ∀ f, s.redis (sessionKey info.sGuid) f = some (info.field f)
  absent : ∀ guid, (∀ k info, s.db.lookup k = some info → info.sGuid ≠ guid) →
    ∀ f, s.redis (sessionKey guid) f = none

/-- The records are stored under their own ids and have distinct guids. -/
structure Mirrored (s : DbStore) : Prop extends Mirrors s where
  key : ∀ k info, s.db.lookup k = some info → info.uiId = k
  unique : ∀ k info, s.db.lookup k = some info →
    ∀ k' info', s.db.lookup k' = some info' → info.sGuid = info'.sGuid → k = k'

theorem mirrored_empty : empty.Mirrored where
  present _ _ found := by cases found
  absent _ _ _ := rfl
  key _ _ found := by cases found
  unique _ _ found := by cases found

/-- A record under a new id is found there, and nothing else changes. -/
theorem lookup_add {s : DbStore} {info : SSessionInfo} (newId : s.db.lookup info.uiId = none)
    (k : UInt32) :
    (s.operate (.add info)).db.lookup k =
      if k = info.uiId then some info else s.db.lookup k := by
  have absent : info.uiId ∉ s.db := AList.lookup_eq_none.mp newId
  rw [operate, if_neg absent]
  by_cases same : k = info.uiId
  · subst same
    rw [if_pos rfl, AList.lookup_insert]
  · rw [if_neg same, AList.lookup_insert_ne same]

/-- The record of an id is removed, if there is one, and it has that id. -/
theorem lookup_del {s : DbStore} {uiId : UInt32}
    (stored : ∀ info, s.db.lookup uiId = some info → info.uiId = uiId) (k : UInt32) :
    (s.operate (.del uiId)).db.lookup k = if k = uiId then none else s.db.lookup k := by
  rw [operate]
  cases found : s.db.lookup uiId with
  | none =>
      by_cases same : k = uiId
      · subst same
        rw [if_pos rfl]
        exact found
      · rw [if_neg same]
  | some info =>
      have key := stored info found
      by_cases same : k = uiId
      · subst same
        rw [if_pos rfl]
        exact key ▸ AList.lookup_erase info.uiId s.db
      · rw [if_neg same]
        exact AList.lookup_erase_ne (key ▸ same)

theorem Mirrored.add {s : DbStore} (h : s.Mirrored) {info : SSessionInfo}
    (newId : s.db.lookup info.uiId = none)
    (newGuid : ∀ k other, s.db.lookup k = some other → other.sGuid ≠ info.sGuid) :
    (s.operate (.add info)).Mirrored := by
  have find : ∀ k other, (s.operate (.add info)).db.lookup k = some other →
      k = info.uiId ∧ other = info ∨ s.db.lookup k = some other := by
    intro k other found
    rw [lookup_add newId] at found
    split at found
    · next same => exact .inl ⟨same, (Option.some.inj found).symm⟩
    · exact .inr found
  refine ⟨⟨?_, ?_⟩, ?_, ?_⟩
  · intro k other found f
    obtain ⟨_, rfl⟩ | old := find k other found
    · exact if_pos rfl
    · have ne : sessionKey other.sGuid ≠ sessionKey info.sGuid := by
        intro same
        exact newGuid k other old (sessionKey_inj.mp same)
      rw [← h.present k other old f]
      exact if_neg ne
  · intro guid none f
    have ne : sessionKey guid ≠ sessionKey info.sGuid := by
      intro same
      refine none info.uiId info ?_ (sessionKey_inj.mp same).symm
      rw [lookup_add newId, if_pos rfl]
    have old : ∀ k other, s.db.lookup k = some other → other.sGuid ≠ guid := by
      intro k other found
      refine none k other ?_
      rw [lookup_add newId, if_neg, found]
      rintro rfl
      rw [newId] at found
      cases found
    rw [← h.absent guid old f]
    exact if_neg ne
  · intro k other found
    obtain ⟨rfl, rfl⟩ | old := find k other found
    · rfl
    · exact h.key k other old
  · intro k other found k' other' found' same
    obtain ⟨rfl, rfl⟩ | old := find k other found
    · obtain ⟨rfl, rfl⟩ | old' := find k' other' found'
      · rfl
      · exact absurd same.symm (newGuid k' other' old')
    · obtain ⟨rfl, rfl⟩ | old' := find k' other' found'
      · exact absurd same (newGuid k other old)
      · exact h.unique k other old k' other' old' same

theorem Mirrored.del {s : DbStore} (h : s.Mirrored) (uiId : UInt32) :
    (s.operate (.del uiId)).Mirrored := by
  cases gone : s.db.lookup uiId with
  | none =>
      have same : s.operate (.del uiId) = s := by rw [operate, gone]
      rwa [same]
  | some info =>
      have redis : (s.operate (.del uiId)).redis = s.redis.hdel info.sGuid := by rw [operate, gone]
      have find : ∀ k other, (s.operate (.del uiId)).db.lookup k = some other →
          k ≠ uiId ∧ s.db.lookup k = some other := by
        intro k other found
        rw [lookup_del (h.key uiId)] at found
        split at found
        · cases found
        · next ne => exact ⟨ne, found⟩
      refine ⟨⟨?_, ?_⟩, fun k other found => h.key k other (find k other found).2,
        fun k other found k' other' found' =>
          h.unique k other (find k other found).2 k' other' (find k' other' found').2⟩
      · intro k other found f
        obtain ⟨ne, old⟩ := find k other found
        have ne : sessionKey other.sGuid ≠ sessionKey info.sGuid := by
          intro same
          exact ne (h.unique k other old uiId info gone (sessionKey_inj.mp same))
        rw [redis, ← h.present k other old f]
        exact if_neg ne
      · intro guid none f
        rw [redis]
        by_cases same : guid = info.sGuid
        · exact if_pos (congrArg sessionKey same)
        · have ne : sessionKey guid ≠ sessionKey info.sGuid := fun eq => same (sessionKey_inj.mp eq)
          have old : ∀ k other, s.db.lookup k = some other → other.sGuid ≠ guid := by
            intro k other found
            by_cases removed : k = uiId
            · subst removed
              obtain rfl := Option.some.inj (gone.symm.trans found)
              exact Ne.symm same
            · refine none k other ?_
              rw [lookup_del (h.key uiId), if_neg removed, found]
          rw [← h.absent guid old f]
          exact if_neg ne

end DbStore

end NatProxy
