import ApolloPlanning.StBoundary.Basic
import ApolloPlanning.StBoundary.Simplify
import ApolloPlanning.StBoundary.Construct
import ApolloPlanning.StBoundary.Polygon
import ApolloPlanning.StBoundary.Build
import ApolloPlanning.StBoundary.Query
import ApolloPlanning.StBoundary.Transform
import ApolloPlanning.StBoundary.Lifecycle
import ApolloPlanning.Common.Messages
import ApolloPlanning.VehicleState.Provider
import ApolloPlanning.Planning.State
import ApolloPlanning.Planning.PullOver
import ApolloPlanning.Planning.Publish
import ApolloPlanning.Planning.RunOnce
import ApolloPlanning.Planning.Navigation
import ApolloPlanning.Planning.Loop
import ApolloPlanning.Planning.Init
