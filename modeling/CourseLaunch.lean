import CourseLaunch.Backend.Caller
import CourseLaunch.Content.Manifest
import CourseLaunch.Main
import CourseLaunch.Popup.Waiting
import CourseLaunch.Proofs.Activity.Accounting
import CourseLaunch.Proofs.Backend.Credentials
import CourseLaunch.Proofs.Command.Browsing
import CourseLaunch.Proofs.Command.Launching
import CourseLaunch.Proofs.Command.Token
import CourseLaunch.Proofs.Content.Article
import CourseLaunch.Proofs.Content.Manifest
import CourseLaunch.Proofs.Content.Video
import CourseLaunch.Proofs.Course.Activating
import CourseLaunch.Proofs.Course.Authorizing
import CourseLaunch.Proofs.Course.Diagnosis
import CourseLaunch.Proofs.Course.Navigation
import CourseLaunch.Proofs.Launch.Capacity
import CourseLaunch.Proofs.Launch.Leftover
import CourseLaunch.Proofs.Launch.Order
import CourseLaunch.Proofs.Launch.Outcome
import CourseLaunch.Proofs.Launch.Superseded
import CourseLaunch.Proofs.Popup.Sharing
import CourseLaunch.Proofs.Web.Appending
import CourseLaunch.Proofs.Wire.Forms
import CourseLaunch.Schedule.Clock
