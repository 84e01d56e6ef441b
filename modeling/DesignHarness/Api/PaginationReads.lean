import DesignHarness.Api.Pagination
import DesignHarness.Library.Except
import DesignHarness.Library.Pointwise

/-!
# Reading a list page by page

A client follows the cursors while the list changes.  A cursor is accepted again for the list and
the order that it was made for, unless it is too long.
-/

namespace DesignHarness.Pagination

open Library

section

variable {scope scope' value : String} {order order' : SortOrder} {key key' : Key} {keyLength : Nat}

/-! ## Cursors -/

theorem cursorText_ascii : IsAscii (cursorText scope order key) := by
  refine objectText_ascii fun member among => ?_
  simp only [List.mem_cons, List.not_mem_nil, or_false] at among
  obtain rfl | rfl | rfl | rfl := among
  · exact integerText_ascii 1
  · exact quoteAscii_ascii scope
  · exact quoteAscii_ascii order.name
  · refine arrayText_ascii fun text listed => ?_
    obtain ⟨part, -, rfl⟩ := List.mem_map.mp listed
    exact part.written_ascii

/-- What a cursor holds, by the order of its keys. -/
def payload (scope : String) (order : SortOrder) (key : Key) : Json :=
  .object [("key", .array (key.map KeyPart.json)), ("order", .string order.name),
    ("scope", .string scope), ("v", .number (integerLiteral 1))]

theorem parts_reads (key : Key) :
    List.Forall₂ Reads (key.map KeyPart.written) (key.map KeyPart.json) :=
  forall₂_map fun part _ => part.reads

theorem cursorText_reads : Reads (cursorText scope order key) (payload scope order key) := by
  have ordered := Reads.string order.name
  have listed := Reads.array (parts_reads key)
  have members : List.Forall₂ (fun member held => member.1 = held.1 ∧ Reads member.2 held.2)
      [("scope", quoteAscii scope), ("order", quoteAscii order.name),
        ("key", arrayText (key.map KeyPart.written))]
      [("scope", .string scope), ("order", .string order.name),
        ("key", .array (key.map KeyPart.json))] :=
    .cons ⟨rfl, Reads.string scope⟩ (.cons ⟨rfl, ordered⟩ (.cons ⟨rfl, listed⟩ .nil))
  have sorted : dictOf [("v", .number (integerLiteral 1)), ("scope", .string scope),
      ("order", .string order.name), ("key", .array (key.map KeyPart.json))] =
      [("key", .array (key.map KeyPart.json)), ("order", .string order.name),
        ("scope", .string scope), ("v", .number (integerLiteral 1))] := by
    have first : "scope" < "v" := by decide
    have second : "order" < "scope" := by decide
    have third : "key" < "order" := by decide
    simp only [dictOf, List.foldl_cons, List.foldl_nil, insertMember, String.reduceEq, if_false,
      if_pos first, if_pos second, if_pos third]
  have whole := @Reads.object _ _ "v" _ _ (Reads.number (integerLiteral 1)) members
  rw [sorted] at whole
  exact whole

theorem octets_of_ascii {text : List Char} (ascii : IsAscii text) :
    (text.map Char.toNat).all (· < 128) = true ∧ (text.map Char.toNat).map Char.ofNat = text := by
  constructor
  · simpa [IsAscii] using ascii
  · simp [List.map_map, Function.comp_def, Char.ofNat_toNat]

theorem cursorPayload_encode :
    cursorPayload (encodeCursor scope order key) = some (payload scope order key) := by
  have ascii := @cursorText_ascii scope order key
  obtain ⟨small, same⟩ := octets_of_ascii ascii
  have bounded : ∀ octet ∈ (cursorText scope order key).map Char.toNat, octet < 256 := by
    intro octet member
    obtain ⟨c, among, rfl⟩ := List.mem_map.mp member
    exact Nat.lt_trans (ascii c among) (by decide)
  unfold cursorPayload encodeCursor
  rw [String.toList_ofList, base64Decode_encode bounded]
  simp only [Option.bind_eq_bind, Option.bind_some, small, if_true, same]
  exact cursorText_reads.readText

theorem partOf_parts (key : Key) : (key.map KeyPart.json).mapM partOf = some key := by
  have all := @mapM_map_some _ _ _ partOf KeyPart.json id key fun part _ => partOf_json part
  rwa [List.map_id] at all

theorem SortOrder.name_inj : order.name = order'.name ↔ order = order' := by
  cases order <;> cases order' <;> decide

theorem acceptedKey_payload : acceptedKey scope' order' keyLength (payload scope order key) =
    if scope = scope' ∧ order = order' ∧ key.length = keyLength then some key else none := by
  have one : isOne (.number (integerLiteral 1)) = true := by
    have read := integerOf_text 1
    simp [isOne, integerLiteral, read]
  have found : acceptedKey scope' order' keyLength (payload scope order key) =
      if isOne (.number (integerLiteral 1)) = true ∧ scope = scope' ∧ order.name = order'.name ∧
        (key.map KeyPart.json).length = keyLength then (key.map KeyPart.json).mapM partOf
      else none := rfl
  rw [found, partOf_parts, one, List.length_map]
  simp only [SortOrder.name_inj, true_and]

theorem encodeCursor_length :
    (encodeCursor scope order key).length = ((cursorText scope order key).length * 4 + 2) / 3 := by
  rw [encodeCursor, String.length_ofList, base64Encode_length, List.length_map]

theorem cursorText_ne_nil : 0 < (cursorText scope order key).length := by
  simp [cursorText, objectText]

theorem decodeCursor_encodeCursor :
    decodeCursor (encodeCursor scope order key) scope' order' keyLength =
      if (cursorText scope order key).length ≤ 1536 ∧ scope = scope' ∧ order = order' ∧
        key.length = keyLength then .ok key else .error .invalidCursor := by
  have length := @encodeCursor_length scope order key
  have positive := @cursorText_ne_nil scope order key
  have filled : encodeCursor scope order key ≠ "" := by
    intro empty
    rw [empty] at length
    simp only [String.length_empty] at length
    omega
  unfold decodeCursor
  by_cases long : 2048 < (encodeCursor scope order key).length
  · rw [if_pos (.inr long), if_neg (fun both => by omega)]
  · have short : (cursorText scope order key).length ≤ 1536 := by omega
    rw [if_neg (by simp [filled, long]), cursorPayload_encode, Option.bind_some,
      acceptedKey_payload]
    by_cases same : scope = scope' ∧ order = order' ∧ key.length = keyLength
    · rw [if_pos same, if_pos ⟨short, same⟩]
    · rw [if_neg same, if_neg (fun both => same both.2)]

/-- A cursor is accepted exactly for the list, the order and the number of fields that it was made
    for, with the key it was made from, and only while its JSON text has at most 1536
    characters. -/
theorem cursor_accepted_iff :
    decodeCursor (encodeCursor scope order key) scope' order' keyLength = .ok key' ↔
      (cursorText scope order key).length ≤ 1536 ∧ scope' = scope ∧ order' = order ∧
        keyLength = key.length ∧ key' = key := by
  rw [decodeCursor_encodeCursor]
  split
  · rename_i accepted
    obtain ⟨short, rfl, rfl, rfl⟩ := accepted
    simp only [Except.ok.injEq, short, true_and]
    exact eq_comm
  · rename_i refused
    constructor
    · rintro ⟨⟩
    · rintro ⟨short, rfl, rfl, rfl, -⟩
      exact absurd ⟨short, rfl, rfl, rfl⟩ refused

end

/-- What a client gets that follows the cursors: each page is of the list as it is then. -/
inductive Pages (scope : String) (fields : List String) (limit : Int) (order : SortOrder) :
    Option String → List (List Item) → List Item → Prop where
  | last {cursor : Option String} {items : List Item} {page : Page}
      (served : paginate items scope fields limit cursor order = .ok page)
      (ends : page.nextCursor = none) :
      Pages scope fields limit order cursor [items] page.items
  | more {cursor : Option String} {items : List Item} {page : Page} {next : String}
      {later : List (List Item)} {rest : List Item}
      (served : paginate items scope fields limit cursor order = .ok page)
      (goes : page.nextCursor = some next)
      (following : Pages scope fields limit order (some next) later rest) :
      Pages scope fields limit order cursor (items :: later) (page.items ++ rest)

/-- The order of the keys of two items. -/
def SortOrder.precedes : SortOrder → Key → Key → Prop
  | asc, key, key' => key < key'
  | desc, key, key' => key' < key

section

variable {scope : String} {fields : List String} {limit : Int} {order : SortOrder}
  {cursor : Option String} {items returned : List Item} {snapshots : List (List Item)}
  {page : Page} {entry : Entry} {entries listing : List Entry} {last : Option Key}

theorem precedes_iff {first second : Ranked order} :
    order.precedes first second ↔ first < second := by
  cases order <;> rfl

theorem keyed_eq_ok {item : Item} :
    keyed fields item = .ok entry ↔ keyOf fields item = some entry.1 ∧ entry.2 = item := by
  obtain ⟨key, listed⟩ := entry
  unfold keyed
  cases keyOf fields item with
  | none => simp
  | some found => simp [Prod.ext_iff, eq_comm]

theorem keyed_items (listed : items.mapM (keyed fields) = .ok listing) :
    listing.map Prod.snd = items ∧
      items.map (keyOf fields) = listing.map fun entry => some entry.1 := by
  have each := mapM_eq_ok.mp listed
  clear listed
  induction each with
  | nil => exact ⟨rfl, rfl⟩
  | @cons item entry items listing head rest ih =>
      obtain ⟨key, same⟩ := keyed_eq_ok.mp head
      exact ⟨congrArg₂ List.cons same ih.1, congrArg₂ List.cons key ih.2⟩

theorem keyed_mem (listed : items.mapM (keyed fields) = .ok listing) (member : entry ∈ listing) :
    entry.2 ∈ items ∧ keyOf fields entry.2 = some entry.1 := by
  have each := mapM_eq_ok.mp listed
  clear listed
  induction each with
  | nil => cases member
  | @cons item other items listing head rest ih =>
      obtain rfl | there := List.mem_cons.mp member
      · obtain ⟨key, same⟩ := keyed_eq_ok.mp head
        rw [same]
        exact ⟨List.mem_cons_self, key⟩
      · obtain ⟨among, key⟩ := ih there
        exact ⟨List.mem_cons_of_mem _ among, key⟩

theorem keyed_keys (each : ∀ entry ∈ entries, keyOf fields entry.2 = some entry.1) :
    (entries.map Prod.snd).mapM (keyOf fields) = some (entries.map Prod.fst) :=
  mapM_map_some each

theorem paginate_ok (served : paginate items scope fields limit cursor order = .ok page) :
    ∃ listing last, items.mapM (keyed fields) = .ok listing ∧
      readCursor scope order fields.length cursor = .ok last ∧ 1 ≤ limit ∧
        page = pageBehind scope limit order last listing := by
  unfold paginate at served
  split at served
  · cases served
  · rename_i valid
    obtain ⟨listing, listed, served⟩ := bind_eq_ok.mp served
    split at served
    · obtain ⟨last, read, served⟩ := bind_eq_ok.mp served
      split at served
      · obtain rfl := Except.ok.inj served
        exact ⟨listing, last, listed, read, by omega, rfl⟩
      · cases served
    · cases served

theorem paginate_eq (listed : items.mapM (keyed fields) = .ok listing) (named : fields ≠ [])
    (limits : 1 ≤ limit ∧ limit ≤ 200) (alike : uniform listing = true)
    (read : readCursor scope order fields.length cursor = .ok last)
    (compares : (listing.all fun entry => last.all (comparable entry.1)) = true) :
    paginate items scope fields limit cursor order =
      .ok (pageBehind scope limit order last listing) := by
  have valid : ¬(fields = [] ∨ limit < 1 ∨ 200 < limit) := by
    rintro (none | low | high)
    · exact named none
    · omega
    · omega
  unfold paginate
  rw [if_neg valid, listed, ok_bind, if_pos alike, read, ok_bind, if_pos compares]
  rfl

theorem pageBehind_ends (positive : 1 ≤ limit)
    (ends : (pageBehind scope limit order last listing).nextCursor = none) :
    Keyset.hasMore (rank order) limit.toNat (last.map (rankOf order)) listing = false := by
  cases more : Keyset.hasMore (rank order) limit.toNat (last.map (rankOf order)) listing with
  | false => rfl
  | true =>
      exfalso
      have long : limit.toNat <
          (Keyset.after (rank order) (last.map (rankOf order)) listing).length := by
        simpa [Keyset.hasMore] using more
      simp only [pageBehind, more, if_true, Option.map_eq_none_iff,
        List.getLast?_eq_none_iff] at ends
      have empty := congrArg List.length ends
      simp only [Keyset.page, List.length_take, List.length_nil] at empty
      omega

theorem pageBehind_goes {next : String}
    (goes : (pageBehind scope limit order last listing).nextCursor = some next) :
    Keyset.hasMore (rank order) limit.toNat (last.map (rankOf order)) listing = true ∧
      ∃ entry, (Keyset.page (rank order) limit.toNat (last.map (rankOf order))
        listing).getLast? = some entry ∧ next = encodeCursor scope order entry.1 := by
  cases more : Keyset.hasMore (rank order) limit.toNat (last.map (rankOf order)) listing with
  | false => simp [pageBehind, more] at goes
  | true =>
      simp only [pageBehind, more, if_true, Option.map_eq_some_iff] at goes
      obtain ⟨entry, found, same⟩ := goes
      exact ⟨rfl, entry, found, same.symm⟩

/-! ## Lists that change -/

/-- The pages are a reading of the entries behind the key of the cursor. -/
theorem Pages.reading (pages : Pages scope fields limit order cursor snapshots returned) :
    ∃ last listings entries, readCursor scope order fields.length cursor = .ok last ∧
      List.Forall₂ (fun items listing => items.mapM (keyed fields) = .ok listing) snapshots
        listings ∧
      Keyset.Reading (rank order) limit.toNat (last.map (rankOf order)) listings entries ∧
        entries.map Prod.snd = returned := by
  induction pages with
  | last served ends =>
      obtain ⟨listing, last, listed, read, positive, rfl⟩ := paginate_ok served
      exact ⟨last, [listing], _, read, .cons listed .nil,
        .last (pageBehind_ends positive ends), rfl⟩
  | @more cursor items page next later rest served goes following ih =>
      obtain ⟨listing, last, listed, read, positive, rfl⟩ := paginate_ok served
      obtain ⟨more, entry, final, rfl⟩ := pageBehind_goes goes
      obtain ⟨behind, listings, entries, decoded, others, reading, rfl⟩ := ih
      have same : behind = some entry.1 := by
        simp only [readCursor, decodeCursor_encodeCursor] at decoded
        split at decoded
        · exact (Except.ok.inj decoded).symm
        · cases decoded
      subst same
      refine ⟨last, listing :: listings, _, read, .cons listed others,
        .more more final reading, ?_⟩
      rw [List.map_append]
      rfl

/-- Whatever happens to a list between the pages: the items come in strict order, so none twice,
    each was in the list, and a key that an item of the list has all the time is returned. -/
theorem pages_enumerate (pages : Pages scope fields limit order none snapshots returned)
    (distinct : ∀ items ∈ snapshots, (items.map (keyOf fields)).Nodup) :
    ∃ keys, returned.mapM (keyOf fields) = some keys ∧ keys.Pairwise order.precedes ∧
      (∀ item ∈ returned, ∃ items ∈ snapshots, item ∈ items) ∧
        ∀ key, (∀ items ∈ snapshots, some key ∈ items.map (keyOf fields)) → key ∈ keys := by
  obtain ⟨last, listings, entries, read, each, reading, rfl⟩ := pages.reading
  obtain rfl := Except.ok.inj read
  have listed : ∀ listing ∈ listings, ∃ items ∈ snapshots,
      items.mapM (keyed fields) = .ok listing :=
    fun listing member => exists_left_of_forall₂ each member
  have known : ∀ entry ∈ entries, (∃ items ∈ snapshots, entry.2 ∈ items) ∧
      keyOf fields entry.2 = some entry.1 := by
    intro entry member
    obtain ⟨⟨listing, among, there⟩, -⟩ := reading.above member
    obtain ⟨items, snapshot, same⟩ := listed listing among
    obtain ⟨here, key⟩ := keyed_mem same there
    exact ⟨⟨items, snapshot, here⟩, key⟩
  refine ⟨entries.map Prod.fst, keyed_keys fun entry member => (known entry member).2, ?_, ?_, ?_⟩
  · have strict := reading.sorted fun listing among => by
      obtain ⟨items, snapshot, same⟩ := listed listing among
      have nodup := distinct items snapshot
      rw [(keyed_items same).2] at nodup
      exact List.Nodup.of_map some (by rwa [List.map_map])
    exact List.pairwise_map.mpr (strict.imp precedes_iff.mpr)
  · intro item member
    obtain ⟨entry, among, rfl⟩ := List.mem_map.mp member
    exact (known entry among).1
  · intro key always
    have held : ∀ listing ∈ listings, ∃ entry ∈ listing, rank order entry = key := by
      intro listing among
      obtain ⟨items, snapshot, same⟩ := listed listing among
      have member := always items snapshot
      rw [(keyed_items same).2] at member
      obtain ⟨entry, there, found⟩ := List.mem_map.mp member
      exact ⟨entry, there, Option.some.inj found⟩
    obtain ⟨entry, among, same⟩ := reading.covers (by rintro _ ⟨⟩) held
    exact List.mem_map.mpr ⟨entry, among, same⟩

/-! A list of numbers from which one goes and to which one comes between two pages. -/

def numbered (number : Int) : Item := [("number", .number (integerLiteral number))]

def numberEntry (number : Int) : Entry := ([.number number], numbered number)

theorem keyOf_numbered (number : Int) :
    keyOf ["number"] (numbered number) = some [.number number] := by
  have read := integerOf_text number
  simp [keyOf, numbered, partOf, integerLiteral, read]

theorem keyed_numbers (numbers : List Int) :
    (numbers.map numbered).mapM (keyed ["number"]) = .ok (numbers.map numberEntry) := by
  induction numbers with
  | nil => rfl
  | cons number rest ih =>
      have head : keyed ["number"] (numbered number) = .ok (numberEntry number) := by
        rw [keyed, keyOf_numbered]
        rfl
      rw [List.map_cons, List.mapM_cons, head, ok_bind, ih, ok_bind]
      rfl

theorem readCursor_number {number : Int}
    (short : (cursorText "runs" .asc [.number number]).length ≤ 1536) :
    readCursor "runs" .asc 1 (some (encodeCursor "runs" .asc [.number number])) =
      .ok (some [.number number]) := by
  rw [readCursor, decodeCursor_encodeCursor, if_pos ⟨short, rfl, rfl, rfl⟩]
  rfl

def changing : List (List Item) :=
  [[2, 1].map numbered, [2, 3].map numbered, [2].map numbered]

theorem changing_pages :
    Pages "runs" ["number"] 1 .asc none changing ([1, 2].map numbered) := by
  have first := @paginate_eq "runs" ["number"] 1 .asc none _ _ none (keyed_numbers [2, 1])
    (by decide) (by decide) (by decide) rfl (by decide)
  have second := @paginate_eq "runs" ["number"] 1 .asc _ _ _ _ (keyed_numbers [2, 3])
    (by decide) (by decide) (by decide) (@readCursor_number 1 (by decide)) (by decide)
  have third := @paginate_eq "runs" ["number"] 1 .asc _ _ _ _ (keyed_numbers [2])
    (by decide) (by decide) (by decide) (@readCursor_number 2 (by decide)) (by decide)
  exact .more first rfl (.more second rfl (.last third rfl))

theorem changing_distinct :
    ∀ items ∈ changing, (items.map (keyOf ["number"])).Nodup := by
  intro items member
  simp only [changing, List.mem_cons, List.not_mem_nil, or_false] at member
  obtain rfl | rfl | rfl := member
  · simp [keyOf_numbered]
  · simp [keyOf_numbered]
  · simp [keyOf_numbered]

theorem pages_enumerate_sample :
    ∃ keys, ([1, 2].map numbered).mapM (keyOf ["number"]) = some keys ∧
      keys.Pairwise SortOrder.asc.precedes ∧
      (∀ item ∈ [1, 2].map numbered, ∃ items ∈ changing, item ∈ items) ∧
        ∀ key, (∀ items ∈ changing, some key ∈ items.map (keyOf ["number"])) → key ∈ keys :=
  pages_enumerate changing_pages changing_distinct

theorem keyOf_length {item : Item} {key : Key} (found : keyOf fields item = some key) :
    key.length = fields.length := by
  induction fields generalizing key with
  | nil =>
      obtain rfl := Option.some.inj found
      rfl
  | cons field rest ih =>
      simp only [keyOf, List.mapM_cons, Option.bind_eq_bind, Option.pure_def,
        Option.bind_eq_some_iff] at found
      obtain ⟨part, -, others, tail, same⟩ := found
      obtain rfl := Option.some.inj same
      rw [List.length_cons, List.length_cons, ih tail]

theorem keyed_of_keys {keys : List Key} (found : items.mapM (keyOf fields) = some keys) :
    ∃ listing, items.mapM (keyed fields) = .ok listing ∧ listing.map Prod.fst = keys ∧
      listing.map Prod.snd = items := by
  induction items generalizing keys with
  | nil =>
      obtain rfl := Option.some.inj found
      exact ⟨[], rfl, rfl, rfl⟩
  | cons item items ih =>
      simp only [List.mapM_cons, Option.bind_eq_bind, Option.pure_def,
        Option.bind_eq_some_iff] at found
      obtain ⟨key, head, others, tail, same⟩ := found
      obtain rfl := Option.some.inj same
      obtain ⟨listing, listed, first, second⟩ := ih tail
      have whole : keyed fields item = .ok (key, item) := by
        rw [keyed_eq_ok]
        exact ⟨head, rfl⟩
      refine ⟨(key, item) :: listing, ?_, ?_, ?_⟩
      · rw [List.mapM_cons, whole, ok_bind, listed, ok_bind]
        rfl
      · rw [List.map_cons, first]
      · rw [List.map_cons, second]

theorem uniform_iff : uniform listing = true ↔
    ∀ entry ∈ listing, ∀ other ∈ listing, comparable entry.1 other.1 = true := by
  simp only [uniform, List.all_eq_true]

/-- A reading of a list that stays is what a client gets, if the cursors are short enough. -/
theorem pages_of_reading (listed : items.mapM (keyed fields) = .ok listing)
    (named : fields ≠ []) (limits : 1 ≤ limit ∧ limit ≤ 200) (alike : uniform listing = true)
    (short : ∀ entry ∈ listing, (cursorText scope order entry.1).length ≤ 1536)
    {listings : List (List Entry)} {behind : Option (Ranked order)}
    (reading : Keyset.Reading (rank order) limit.toNat behind listings entries)
    (stays : ∀ other ∈ listings, other = listing) (same : last.map (rankOf order) = behind)
    (known : ∀ key ∈ last, ∃ entry ∈ listing, entry.1 = key)
    (read : readCursor scope order fields.length cursor = .ok last) :
    Pages scope fields limit order cursor (List.replicate listings.length items)
      (entries.map Prod.snd) := by
  have compares : ∀ {last : Option Key}, (∀ key ∈ last, ∃ entry ∈ listing, entry.1 = key) →
      (listing.all fun entry => last.all (comparable entry.1)) = true := by
    intro last known
    simp only [List.all_eq_true, Option.all_eq_true]
    intro entry member key held
    obtain ⟨other, among, rfl⟩ := known key held
    exact uniform_iff.mp alike entry member other among
  induction reading generalizing cursor last with
  | @last behind others ends =>
      subst same
      obtain rfl := stays others List.mem_cons_self
      have served := paginate_eq listed named limits alike read (compares known)
      exact .last served (by simp [pageBehind, ends])
  | @more behind others later rest final goes ends next ih =>
      subst same
      obtain rfl := stays others List.mem_cons_self
      have among : final ∈ others :=
        (Keyset.mem_of_mem_page (List.mem_of_getLast? ends)).1
      have fits := keyOf_length (keyed_mem listed among).2
      have decoded : readCursor scope order fields.length
          (some (encodeCursor scope order final.1)) = .ok (some final.1) := by
        rw [readCursor, decodeCursor_encodeCursor, if_pos ⟨short final among, rfl, rfl, fits⟩]
        rfl
      have following := @ih (some (encodeCursor scope order final.1)) (some final.1)
        (fun other member => stays other (List.mem_cons_of_mem _ member)) rfl
        (by rintro _ ⟨⟩; exact ⟨final, among, rfl⟩) decoded
      have first := paginate_eq listed named limits alike read (compares known)
      have onward : (pageBehind scope limit order last others).nextCursor =
          some (encodeCursor scope order final.1) := by
        simp only [pageBehind, goes, if_true]
        rw [ends]
        rfl
      rw [List.map_append]
      exact Pages.more first onward following

/-- A list that stays is read to its end, every item once. -/
theorem pages_complete {keys : List Key} (found : items.mapM (keyOf fields) = some keys)
    (distinct : keys.Nodup)
    (alike : ∀ key ∈ keys, ∀ other ∈ keys, comparable key other = true)
    (short : ∀ key ∈ keys, (cursorText scope order key).length ≤ 1536)
    (named : fields ≠ []) (limits : 1 ≤ limit ∧ limit ≤ 200) :
    ∃ pages returned, Pages scope fields limit order none (List.replicate pages items) returned ∧
      returned.Perm items := by
  obtain ⟨listing, listed, rfl, same⟩ := keyed_of_keys found
  have mapped : ∀ entry ∈ listing, entry.1 ∈ listing.map Prod.fst :=
    fun entry member => List.mem_map_of_mem member
  have apart : (listing.map (rank order)).Nodup := distinct
  obtain ⟨pages, reading⟩ := @Keyset.exists_reading Entry (Ranked order) _ (rank order)
    limit.toNat none listing (by omega) apart
  have perm := Keyset.after_none_perm (rank order) listing
  have start : readCursor scope order fields.length none = .ok none := rfl
  have all := pages_of_reading listed named limits
    (uniform_iff.mpr fun entry member other among =>
      alike entry.1 (mapped entry member) other.1 (mapped other among))
    (fun entry member => short entry.1 (mapped entry member)) reading
    (fun other member => List.eq_of_mem_replicate member) rfl
    (by rintro _ ⟨⟩) start
  rw [List.length_replicate] at all
  refine ⟨pages, _, all, ?_⟩
  rw [← same]
  exact perm.map Prod.snd

theorem pages_complete_sample :
    ∃ pages returned, Pages "runs" ["number"] 1 .asc none
      (List.replicate pages ([3, 1, 2].map numbered)) returned ∧
        returned.Perm ([3, 1, 2].map numbered) := by
  have found : ([3, 1, 2].map numbered).mapM (keyOf ["number"]) =
      some [[.number 3], [.number 1], [.number 2]] := by simp [keyOf_numbered]
  exact pages_complete found (by decide) (by decide) (by decide) (by decide) (by decide)

end

end DesignHarness.Pagination
