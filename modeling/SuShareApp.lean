import SuShareApp.Library.TransitionSystem
import SuShareApp.Library.Collection
import SuShareApp.Library.Version
import SuShareApp.Library.StableSort
import SuShareApp.Double
import SuShareApp.Models
import SuShareApp.CreateForm
import SuShareApp.CreateScreen
import SuShareApp.DatabaseService
import SuShareApp.World
import SuShareApp.Payment
import SuShareApp.Integrity
import SuShareApp.Membership
import SuShareApp.JoinFlow
import SuShareApp.StripeIdentity
import SuShareApp.Explore
import SuShareApp.ExploreFilters
import SuShareApp.Fresh
import SuShareApp.Flags
import SuShareApp.CreateFlow
import SuShareApp.PostedTerms
import SuShareApp.Favorites
import SuShareApp.SignUp
import SuShareApp.Library.LocalStore
import SuShareApp.Hearts
import SuShareApp.SignUpOutcome
import SuShareApp.AppSession
import SuShareApp.AppSessionSettled
import SuShareApp.HeartAgreement
import SuShareApp.OwnFavorites
import SuShareApp.Library.DocumentStore
import SuShareApp.Service
import SuShareApp.Friends
import SuShareApp.Library.Matching
import SuShareApp.Notifications
import SuShareApp.UpdatesFeed
import SuShareApp.UpdatesScreen
import SuShareApp.Comments
import SuShareApp.Participants
import SuShareApp.Library.ListenerSlot
import SuShareApp.PersonalScreen
import SuShareApp.Listeners
import SuShareApp.Contributions
import SuShareApp.RoundTrips
import SuShareApp.ExploreLists
import SuShareApp.ExploreSnapshots
import SuShareApp.ExploreFeed
import SuShareApp.FriendSearch
import SuShareApp.CommentsScreen
import SuShareApp.Funding
import SuShareApp.CreatedTab
import SuShareApp.JoinPresses
import SuShareApp.CategoryTable
import SuShareApp.Library.Promise
import SuShareApp.Library.DataTree
import SuShareApp.PaymentSource
import SuShareApp.PaymentSourceTrigger
import SuShareApp.PaymentSourcesAtRest
import SuShareApp.PaymentSourcesTermination
import SuShareApp.AccountCleanup
import SuShareApp.ProfilePhoto
