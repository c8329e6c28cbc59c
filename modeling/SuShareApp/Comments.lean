import SuShareApp.Fresh
import SuShareApp.Integrity
import Mathlib.Data.List.Sort

/-!
# The comment threads

A comment is posted from a detail screen, into the subcollection of the SuShare that the
screen's copy names, and the thread of a screen lists the subcollection that its own copy
names. Both are the SuShare that the copies come from, whichever list they were opened from
(`Intact`).

A post draws a new id for its document, and nothing rewrites or deletes a comment, so the
subcollection has one document for each post that was served (`posts`). The decoder reads the
text, the author and the date under the keys that they were written under; the other three
keys differ and are not shown. Of the date, the whole microseconds are stored. The thread is
sorted anew in every snapshot, so only the last one counts.
-/

namespace SuShareApp

/-! ## The screen -/

/-- `$0.commentDate.dateValue() > $1.commentDate.dateValue()`, as the order that a stable sort
leaves the list in. -/
def Comment.Newer (a b : Comment) : Prop :=
  b.commentDate.dateValue ≤ a.commentDate.dateValue

instance : DecidableRel Comment.Newer := fun a b =>
  inferInstanceAs (Decidable (b.commentDate.dateValue ≤ a.commentDate.dateValue))

instance : IsTrans Comment Comment.Newer :=
  ⟨fun _ _ _ hab hbc => le_trans hbc hab⟩

instance : Std.Total Comment.Newer :=
  ⟨fun a b => le_total b.commentDate.dateValue a.commentDate.dateValue⟩

structure CommentsViewController where
  sushare : SuShare
  comments : List Comment

namespace CommentsViewController

/-- What the listener of `viewDidAppear` does with a snapshot. -/
def listener (c : CommentsViewController) (now : Timestamp) (documents : List Dictionary) :
    CommentsViewController :=
  let comments := documents.map (Comment.init now)
  { c with comments := comments.insertionSort Comment.Newer }

/-- The snapshot of the subcollection as the store has it. -/
def snapshot (c : CommentsViewController) (db : Store) (now : Timestamp) :
    CommentsViewController :=
  c.listener now ((db.comments c.sushare.suShareId).docs.map Prod.snd)

end CommentsViewController

/-! ## Posts -/

/-- What is shown of a comment. -/
structure Post where
  text : String
  author : String
  date : Timestamp
deriving DecidableEq, Repr

def Comment.post (c : Comment) : Post :=
  ⟨c.comment, c.commentedBy, c.commentDate⟩

/-- The post as it is stored. -/
def Post.truncate (p : Post) : Post :=
  { p with date := p.date.truncate }

/-- The step serves a post on the SuShare. -/
def Action.posted? (id : String) : Action → Option Post
  | .serve (.postComment displayName _ now comment screen) =>
    if screen.origin = id then some ⟨comment, displayName, now⟩ else none
  | _ => none

/-- The decoder reads the post back, with the date in whole microseconds. -/
theorem Comment.post_init (displayName : String) (date : Timestamp) (sushare : SuShare)
    (text : String) (now : Timestamp) :
    (Comment.init now (Store.commentDocument displayName date sushare text)).post =
      Post.truncate ⟨text, displayName, date⟩ := by
  simp [Comment.post, Post.truncate, Comment.init, Store.commentDocument, Dictionary.read,
    FieldValue.asString,
    FieldValue.asTimestamp]

variable {users : Collection String Dictionary} {as : List Action} {w w' : World} {a : Action}

/-- The posts that the subcollection of a SuShare holds. -/
def World.posts (w : World) (id : String) (now : Timestamp) : List Post :=
  (w.db.comments id).docs.map fun e => (Comment.init now e.2).post

/-- A request that posts no comment leaves the comments as they are. -/
theorem Request.comments_of_perform {db db' : Store} {r : Request} (h : r.perform db = some db')
    (hr : ∀ displayName docRef date text screen,
      r ≠ .postComment displayName docRef date text screen) (id : String) :
    db'.comments id = db.comments id := by
  rcases perform_collection h (.comments id) with he | ⟨k, d, hc, -⟩ | ⟨hp, -⟩ | ⟨k, -, hp, -⟩
  · exact he
  · cases r with
    | postComment => exact (hr _ _ _ _ _ rfl).elim
    | _ => cases hc
  · cases hp
  · cases hp

/-- A subcollection gains the post that the step serves on its SuShare, if it serves one. -/
theorem World.posts_step (hfresh : Fresh w) (hintact : Intact w) (hs : w.step a = some w')
    (id : String) (now : Timestamp) :
    (w'.posts id now).Perm
      (w.posts id now ++ ([a].filterMap (Action.posted? id)).map Post.truncate) := by
  cases World.steps_of_step hs with
  | receive | openDetail | press | reject | deliver =>
    change (w.posts id now).Perm (w.posts id now ++ [])
    rw [List.append_nil]
  | @serve r db hr hdb =>
    cases r with
    | postComment displayName docRef date text screen =>
      obtain rfl := Option.some.inj hdb
      -- the copy of the screen names the SuShare that it comes from
      have horigin : screen.sushare.suShareId = screen.origin :=
        (hintact.copies screen (World.mem_copies_of_request hr rfl)).suShareId
      have habsent : (w.db.comments screen.origin).get? docRef = none := by
        refine Option.eq_none_iff_forall_ne_some.mpr fun doc hd => ?_
        exact hfresh.absent _ hr docRef rfl ⟨.comments screen.origin, doc, hd⟩
      simp only [World.posts, World.served, Store.postComment, horigin]
      by_cases hid : screen.origin = id
      · subst hid
        rw [Function.update_self]
        refine ((Collection.docs_setData_perm habsent _).map _).trans ?_
        simpa [Action.posted?, Comment.post_init] using (List.perm_append_singleton _ _).symm
      · simp [Function.update_of_ne (Ne.symm hid), Action.posted?, hid]
    | _ =>
      have hsame := Request.comments_of_perform hdb (by simp) id
      change ((db.comments id).docs.map _).Perm (w.posts id now ++ [])
      rw [List.append_nil, hsame]
      exact .refl _

/-- A subcollection holds the posts that were served on its SuShare, each once. -/
theorem posts (h : (app users).Run as w) (id : String) (now : Timestamp) :
    (w.posts id now).Perm ((as.filterMap (Action.posted? id)).map Post.truncate) := by
  refine h.invariant
    (I := fun as w => (w.posts id now).Perm ((as.filterMap (Action.posted? id)).map Post.truncate))
    (fun w h0 => ?_) fun as w a w' hr ih hs => ?_
  · rw [show w = World.initial users from h0]
    exact .refl _
  · have hstep := World.posts_step (fresh hr) (intact hr) hs id now
    rw [List.filterMap_append, List.map_append]
    exact hstep.trans (ih.append_right _)

/-- The request of a post carries what its press entered, read off the client of the press. -/
def CommentedBy (as : List Action) (displayName docRef : String) (date : Timestamp) (text : String)
    (screen : Copy) : Prop :=
  ∃ client : Client, .press (.postComment screen text) client ∈ as ∧ client.docRef = docRef ∧
    client.now = date ∧ client.currentUser.bind AuthUser.displayName = some displayName

theorem CommentedBy.append {displayName docRef text : String} {date : Timestamp} {screen : Copy}
    (h : CommentedBy as displayName docRef date text screen) (a : Action) :
    CommentedBy (as ++ [a]) displayName docRef date text screen := by
  obtain ⟨client, hp, hclient⟩ := h
  exact ⟨client, List.mem_append_left _ hp, hclient⟩

/-- A post in flight was pressed. -/
theorem commentedBy_of_request (h : (app users).Run as w) : ∀ displayName docRef date text screen,
    .postComment displayName docRef date text screen ∈ w.requests →
      CommentedBy as displayName docRef date text screen := by
  refine h.invariant (I := fun as w => ∀ displayName docRef date text screen,
    .postComment displayName docRef date text screen ∈ w.requests →
      CommentedBy as displayName docRef date text screen) (fun w h0 => ?_)
    fun as w a w' _ ih hs => ?_
  · rw [show w = World.initial users from h0]
    simp [World.initial]
  · intro displayName docRef date text screen hr
    rcases World.requests_step hs hr with hr | ⟨p, client, rs, rfl, hrs, hr⟩ |
      ⟨ans, client, rfl, -, hr⟩
    · exact (ih _ _ _ _ _ hr).append a
    · cases Press.issues_of_requests hrs hr with
      | postComment hscreen hname =>
        exact ⟨client, by simp, rfl, rfl, hname⟩
    · -- no handler posts a comment
      cases Answer.issues_of_completion hr

/-- A served post was pressed. -/
theorem commentedBy_of_serve (h : (app users).Run as w) {displayName docRef text : String}
    {date : Timestamp} {screen : Copy}
    (hs : .serve (.postComment displayName docRef date text screen) ∈ as) :
    CommentedBy as displayName docRef date text screen := by
  obtain ⟨bs, cs, rfl⟩ := List.append_of_mem hs
  obtain ⟨w₁, w₂, hrun, hstep⟩ := h.exists_step
  obtain ⟨hr, -⟩ := Option.ite_none_right_eq_some.mp hstep
  obtain ⟨client, hp, hclient⟩ := commentedBy_of_request hrun _ _ _ _ _ hr
  exact ⟨client, List.mem_append_left _ hp, hclient⟩

/-! ## Threads -/

namespace CommentsViewController

/-- A thread shows what the subcollection of its SuShare holds. -/
theorem post_snapshot_perm (hintact : Intact w) {screen : Copy} (hs : screen ∈ w.screens)
    {c : CommentsViewController} (hc : c.sushare = screen.sushare) (now : Timestamp) :
    ((c.snapshot w.db now).comments.map Comment.post).Perm (w.posts screen.origin now) := by
  have horigin : screen.sushare.suShareId = screen.origin :=
    (hintact.copies screen (World.mem_copies_of_screen hs)).suShareId
  unfold snapshot listener World.posts
  rw [hc, horigin]
  refine ((List.perm_insertionSort Comment.Newer _).map Comment.post).trans ?_
  rw [List.map_map, List.map_map]
  exact .refl _

/-- After the last snapshot, the thread of a screen shows each comment that was served on its
SuShare once, with the text, the author and the date of its press, the date in whole microseconds,
and the newest first. -/
theorem thread_exact (h : (app users).Run as w) {screen : Copy} (hs : screen ∈ w.screens)
    {c : CommentsViewController} (hc : c.sushare = screen.sushare) (now : Timestamp) :
    ((c.snapshot w.db now).comments.map Comment.post).Perm
      ((as.filterMap (Action.posted? screen.origin)).map Post.truncate) ∧
    (c.snapshot w.db now).comments.Pairwise Comment.Newer ∧
    ∀ displayName docRef date text from_,
      .serve (.postComment displayName docRef date text from_) ∈ as →
        CommentedBy as displayName docRef date text from_ := by
  refine ⟨?_, List.pairwise_insertionSort Comment.Newer _, ?_⟩
  · exact (post_snapshot_perm (intact h) hs hc now).trans (posts h screen.origin now)
  · exact fun _ _ _ _ _ hserve => commentedBy_of_serve h hserve

/-- Ann comments on her SuShare, and Bob from his Favorites tab, whose comment is served first. -/
def commenting : List Action :=
  Sample.favoriting ++ [
    .press (.postComment Sample.roofCopy "Hi") { Sample.client Sample.ann "c1" with now := ⟨5, 0⟩ },
    .press (.postComment Sample.favoriteCopy "Hello")
      { Sample.client Sample.bob "c2" with now := ⟨7, 1500⟩ },
    .serve (.postComment "Bob" "c2" ⟨7, 1500⟩ "Hello" Sample.favoriteCopy),
    .serve (.postComment "Ann" "c1" ⟨5, 0⟩ "Hi" Sample.roofCopy)]

/-- Both comments are in the thread that is opened from the Explore list. -/
theorem thread_exact_commenting : ∃ w, (app Sample.profiles).Run commenting w ∧
    (((⟨Sample.roof, []⟩ : CommentsViewController).snapshot w.db ⟨9, 0⟩).comments.map
      Comment.post).Perm [⟨"Hello", "Bob", ⟨7, 1000⟩⟩, ⟨"Hi", "Ann", ⟨5, 0⟩⟩] := by
  obtain ⟨w, hrun, hs⟩ := Sample.exists_run commenting
    (fun w => Sample.roofCopy ∈ w.screens) (by decide +kernel)
  exact ⟨w, hrun, (thread_exact hrun hs rfl ⟨9, 0⟩).1⟩

/-- Bob's comment is not shown with the date it was posted with. -/
theorem not_thread_exact : ¬ ∀ (users : Collection String Dictionary) (as : List Action)
    (w : World) (screen : Copy) (c : CommentsViewController) (now : Timestamp),
    (app users).Run as w → screen ∈ w.screens → c.sushare = screen.sushare →
      ((c.snapshot w.db now).comments.map Comment.post).Perm
        (as.filterMap (Action.posted? screen.origin)) := by
  intro h
  obtain ⟨w, hrun, hs, hposts⟩ := Sample.exists_run commenting
    (fun w => Sample.roofCopy ∈ w.screens ∧ ⟨"Hello", "Bob", ⟨7, 1500⟩⟩ ∉
      ((⟨Sample.roof, []⟩ : CommentsViewController).snapshot w.db ⟨9, 0⟩).comments.map
        Comment.post) (by decide +kernel)
  have hperm := h _ _ w _ ⟨Sample.roof, []⟩ ⟨9, 0⟩ hrun hs rfl
  exact hposts (hperm.mem_iff.mpr (by decide +kernel))

end CommentsViewController

end SuShareApp
