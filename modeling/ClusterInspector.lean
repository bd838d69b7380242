import ClusterInspector.Chance.Script
import ClusterInspector.Desk
import ClusterInspector.Main
import ClusterInspector.Proofs.Addressing
import ClusterInspector.Proofs.Course
import ClusterInspector.Proofs.Deletion
import ClusterInspector.Proofs.Limits
import ClusterInspector.Proofs.Run
import ClusterInspector.Proofs.Forward
import ClusterInspector.Proofs.Generated
import ClusterInspector.Proofs.Integrity
import ClusterInspector.Proofs.Attendance
import ClusterInspector.Proofs.Isolation
import ClusterInspector.Proofs.Scope
import ClusterInspector.Proofs.Highlight
import ClusterInspector.Proofs.Naming
import ClusterInspector.Proofs.Reading
import ClusterInspector.Proofs.ReadBack
import ClusterInspector.Proofs.Writing
import ClusterInspector.Proofs.Transcript
import ClusterInspector.Proofs.Unfailing
import ClusterInspector.Proofs.Clearing
import ClusterInspector.Proofs.Showing
import ClusterInspector.Proofs.Styling
import ClusterInspector.Proofs.OneShot
import ClusterInspector.Proofs.Visits
import ClusterInspector.Proofs.Guests
import ClusterInspector.Proofs.Screen
import ClusterInspector.Proofs.Departure
import ClusterInspector.Proofs.Cascade
import ClusterInspector.Proofs.Handles
import ClusterInspector.Proofs.Ambiguity
import ClusterInspector.Proofs.Listings
import ClusterInspector.Proofs.Amounts
import ClusterInspector.Proofs.Recall
import ClusterInspector.Proofs.Gregorian
import ClusterInspector.Proofs.Stamps
import ClusterInspector.Proofs.Markup
import ClusterInspector.Proofs.Surplus
import ClusterInspector.Proofs.Drawing
